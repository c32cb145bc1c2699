import ObjectStore.History.Unseen

/-!
# Raising a failure while another is handled

A failure that is raised while another one is handled takes that one as its context. If the path
of contexts from the handled failure led back to the raised one, the link that closes the loop is
removed first.
-/

namespace ObjectStore.History

set_option autoImplicit false

/-- The first failure on a path of contexts whose own context is the target. -/
def contextHolder? (history : History) (target : FailureId) (unseen : Unseen)
    (current : FailureId) : Option FailureId :=
  if _marked : unseen.contains current = true then
    match (history.occurrence current).context with
    | none => none
    | some next =>
        if next = target then some current
        else history.contextHolder? target (unseen.strike current) next
  else none
termination_by unseen.count
decreasing_by exact Unseen.count_strike_lt _marked

def setContext (history : History) (id : FailureId) (context : Option FailureId) : History :=
  history.adjust id fun occurrence => { occurrence with context := context }

def setSuppressContext (history : History) (id : FailureId) (suppress : Bool) : History :=
  history.adjust id fun occurrence => { occurrence with suppressContext := suppress }

def setCause (history : History) (id : FailureId) (cause : Option FailureId) : History :=
  history.adjust id fun occurrence => occurrence.raisedFrom cause

/-- Nothing changes for a failure that is raised again while it is itself handled. -/
def raiseWhileHandling (history : History) (raised handled : FailureId) : History :=
  if raised = handled then history
  else
    match history.contextHolder? raised (.ofHistory history) handled with
    | some holder => (history.setContext holder none).setContext raised (some handled)
    | none => history.setContext raised (some handled)

end ObjectStore.History
