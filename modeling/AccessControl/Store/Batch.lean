import AccessControl.Store.Basic

/-!
# Committing queued changes

A batch is checked as a whole against what is stored before any change of it is applied: a change
may not touch what an earlier one deletes, and no link may arise twice.  Then the changes are
applied in order.
-/

namespace AccessControl.Store

/-- checks changes that come after others in the same batch: those before delete the identities
`deleted` and make the links `linked` -/
def checkChanges (s : Store) (deleted : List Id) (linked : List Link.Draft) :
    List Change → Except BatchFault Unit
  | [] => .ok ()
  | .delete kind id :: rest =>
    if deleted.contains id || !s.exists? kind id then .error (.missingTarget kind id)
    else s.checkChanges (id :: deleted) linked rest
  | .link l :: rest =>
    if !s.exists? .relyingParty l.relyingParty || !s.exists? .ruleGroup l.ruleGroup
        || deleted.contains l.relyingParty || deleted.contains l.ruleGroup then
      .error (.missingEnd l.relyingParty l.ruleGroup)
    else if s.isLinked l || linked.contains l then
      .error (.alreadyLinked l.relyingParty l.ruleGroup)
    else s.checkChanges deleted (l :: linked) rest

def checkBatch (s : Store) (batch : List Change) : Except BatchFault Unit :=
  s.checkChanges [] [] batch

def applyChange (s : Store) : Change → Store
  | .delete kind id => s.removeIfPresent kind id
  | .link l => (s.insertLink l).2

def applyBatch (s : Store) (batch : List Change) : Store := batch.foldl applyChange s

end AccessControl.Store
