import ObjectStore.Classify
import ObjectStore.Log

/-!
# Guarded blocks

A guard stands around a block of client calls. A failure of the storage client that leaves the
block is classified, logged and raised again as a storage failure from the one that came.
Everything else passes. When the classification itself cannot be made, the reason leaves instead.
-/

namespace ObjectStore

set_option autoImplicit false

inductive BlockEnd where
  | completed
  | raised (failure : FailureId)
  deriving DecidableEq, Repr

structure BlockRun where
  journal : Journal
  ending : BlockEnd
  log : List LogRecord
  deriving Repr

def classificationRecord (operation : String) (error : ClassifiedError) : LogRecord where
  level := .debug
  source := .classification
  text := operation ++ " failed with " ++ error.kind.value ++ ": " ++ error.message

/-- Raises the reason why no classified error can be made while a failure is handled. -/
def Journal.raiseFault (journal : Journal) (fault : ClassificationFault) (handled : FailureId) :
    Journal × FailureId :=
  (journal.record { Occurrence.fresh fault.failure with context := some handled },
    journal.nextId)

def guardBlock (operation : String) (path : Path) (run : BlockRun) : BlockRun :=
  match run.ending with
  | .completed => run
  | .raised id =>
      if (run.journal.failure id).isFromClient then
        match run.journal.classify operation path id with
        | .error fault =>
            let (journal, raised) := run.journal.raiseFault fault id
            { run with journal, ending := .raised raised }
        | .ok (classified, classification) =>
            let (journal, raised) := classified.raise classification (some id)
            { journal
              ending := .raised raised
              log := run.log ++ [classificationRecord operation classification.error] }
      else run

structure GuardLayer where
  operation : String
  path : Path
  deriving Repr

/-- Guards around each other, the outermost first. -/
def guardNested (layers : List GuardLayer) (run : BlockRun) : BlockRun :=
  layers.foldr (fun layer inner => guardBlock layer.operation layer.path inner) run

theorem guard_block_completed (operation : String) (path : Path) (run : BlockRun)
    (completed : run.ending = .completed) : guardBlock operation path run = run := by
  simp [guardBlock, completed]

theorem guard_block_passes (operation : String) (path : Path) (run : BlockRun)
    (id : FailureId) (raised : run.ending = .raised id)
    (foreign : (run.journal.failure id).isFromClient = false) :
    guardBlock operation path run = run := by
  simp [guardBlock, raised, foreign]

end ObjectStore
