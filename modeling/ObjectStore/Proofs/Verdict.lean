import ObjectStore.Proofs.Classification
import ObjectStore.Proofs.Growth

/-!
# What is decided of a failure

Classification decides on a variant and on a status, and it does so without looking at the operation
and the path. The rest of a classified error is put around this verdict. For as long as a history
only grows, the verdict on a recorded failure stays.
-/

namespace ObjectStore

set_option autoImplicit false

/-- What is decided of a failure: the variant, with its code, details and endpoint, and the
status. Neither operation nor path is asked for. -/
def History.verdict (history : History) (id : FailureId) :
    Except TextFault (Variant × Option Int) :=
  match (history.failure id).response with
  | some response => do
      let body ← response.body?
      let variant ← responseVariant (.ofStatus response.status?) body
      return (variant, response.status?)
  | none => return (if history.isInterrupted (some id) then .interrupted else .clientSide, none)

def ClassifiedError.ofVerdict (operation : String) (label : Option String) (failureText : String)
    (id : FailureId) (verdict : Variant × Option Int) : ClassifiedError where
  variant := verdict.1
  message := variantMessage (failureMessage operation label failureText) verdict.1
  operation := operation
  cause := id
  path := label
  statusCode := verdict.2

theorem History.classify_eq_verdict (history : History) (operation : String) (path : Path)
    (label : Option String) (id : FailureId) (failureText : String)
    (labelled : path.label? = .ok label)
    (described : (history.failure id).text = .ok failureText) :
    history.classify operation path id =
      ((history.verdict id).mapError .text).map (.ofVerdict operation label failureText id) := by
  unfold History.classify History.verdict
  rw [labelled, described]
  cases (history.failure id).response with
  | some response =>
      dsimp only
      cases response.body? with
      | error fault => rfl
      | ok body =>
          -- On both sides the variant is what is chosen next.
          let chosen := responseVariant (.ofStatus response.status?) body
          change (chosen.mapError ClassificationFault.text >>= _) =
            ((chosen >>= _).mapError ClassificationFault.text).map _
          cases chosen <;> rfl
  | none => cases history.isInterrupted (some id) <;> rfl

theorem History.classify_iff_verdict (history : History) (operation : String) (path : Path)
    (id : FailureId) (error : ClassifiedError) :
    history.classify operation path id = .ok error ↔
      ∃ label failureText verdict, path.label? = .ok label ∧
        (history.failure id).text = .ok failureText ∧ history.verdict id = .ok verdict ∧
        .ofVerdict operation label failureText id verdict = error := by
  constructor
  · intro made
    obtain ⟨label, failureText, labelled, described, _⟩ :=
      (history.classify_eq_ok_iff operation path id error).mp made
    rw [history.classify_eq_verdict operation path label id failureText labelled described] at made
    cases decided : history.verdict id with
    | error fault =>
        rw [decided] at made
        cases made
    | ok verdict =>
        rw [decided] at made
        exact ⟨label, failureText, verdict, labelled, described, rfl, Except.ok.inj made⟩
  · rintro ⟨label, failureText, verdict, labelled, described, decided, rfl⟩
    rw [history.classify_eq_verdict operation path label id failureText labelled described, decided]
    rfl

theorem verdict_service {history : History} {id : FailureId} {response : Response}
    {body : Option Record} (found : (history.failure id).response = some response)
    (read : response.body? = .ok body) :
    history.verdict id =
      (responseVariant (.ofStatus response.status?) body).map fun variant =>
        (variant, response.status?) := by
  unfold History.verdict
  simp only [found, read]
  rfl

theorem verdict_plain {history : History} {id : FailureId}
    (plain : (history.failure id).isService = false) :
    history.verdict id =
      .ok (if history.isInterrupted (some id) then .interrupted else .clientSide, none) := by
  unfold History.verdict
  rw [(not_service_iff _).mp plain]
  rfl

theorem History.Extends.verdict {earlier later : History} (grown : earlier.Extends later)
    (closed : earlier.Closed) (id : FailureId) (recorded : id < earlier.size) :
    later.verdict id = earlier.verdict id := by
  unfold History.verdict
  rw [grown.failure id recorded, grown.is_interrupted closed id recorded]

end ObjectStore
