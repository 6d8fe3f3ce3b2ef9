import Mathlib.Logic.Relation

/-!
# A copy that catches up from a log

One party works on an original and logs what it does there.  Another redoes the logged
operations on a copy, oldest first.  When each operation keeps a relation between the two,
they are related whenever the log is empty, however the parties interleave.
-/

namespace Replay

variable {A B Op : Type*}

/-- The original, the copy, and what is logged but not redone. -/
structure Pair (A B Op : Type*) where
  original : A
  copy : B
  log : List Op

/-- A step of either party.  Idle steps of the first are not logged. -/
inductive Step (act : A → Op → A → Prop) (idle : A → A → Prop) (redo : B → Op → Option B) :
    Pair A B Op → Pair A B Op → Prop where
  | act {original original' : A} {operation : Op} (copy : B) (log : List Op)
      (done : act original operation original') :
      Step act idle redo ⟨original, copy, log⟩ ⟨original', copy, log ++ [operation]⟩
  | idle {original original' : A} (copy : B) (log : List Op) (done : idle original original') :
      Step act idle redo ⟨original, copy, log⟩ ⟨original', copy, log⟩
  | redo (original : A) {copy copy' : B} {operation : Op} (log : List Op)
      (done : redo copy operation = some copy') :
      Step act idle redo ⟨original, copy, operation :: log⟩ ⟨original, copy', log⟩

/-- Redoing all that is logged succeeds and relates the copy to the original. -/
def CatchesUp (redo : B → Op → Option B) (related : A → B → Prop) (pair : Pair A B Op) : Prop :=
  ∃ final, pair.log.foldlM redo pair.copy = some final ∧ related pair.original final

variable {act : A → Op → A → Prop} {idle : A → A → Prop} {redo : B → Op → Option B}
  {related : A → B → Prop} {pair pair' : Pair A B Op}

/-- Every step keeps the copy able to catch up. -/
theorem CatchesUp.step
    (onAct : ∀ original copy operation original', related original copy →
      act original operation original' →
      ∃ copy', redo copy operation = some copy' ∧ related original' copy')
    (onIdle : ∀ original copy original', related original copy → idle original original' →
      related original' copy)
    (catches : CatchesUp redo related pair) (step : Step act idle redo pair pair') :
    CatchesUp redo related pair' := by
  obtain ⟨final, redone, relates⟩ := catches
  cases step with
  | act copy log done =>
      obtain ⟨final', last, relates'⟩ := onAct _ final _ _ relates done
      refine ⟨final', ?_, relates'⟩
      rw [List.foldlM_append, redone]
      simp [last]
  | idle copy log done => exact ⟨final, redone, onIdle _ final _ relates done⟩
  | redo original log done =>
      refine ⟨final, ?_, relates⟩
      rw [List.foldlM_cons, done] at redone
      exact redone

/-- With an empty log the copy is related as it is. -/
theorem CatchesUp.related_of_nil (catches : CatchesUp redo related pair) (empty : pair.log = []) :
    related pair.original pair.copy := by
  obtain ⟨final, redone, relates⟩ := catches
  rw [empty, List.foldlM_nil] at redone
  rwa [Option.some.inj redone]

/-- The oldest logged operation can be redone, and the copy goes on catching up. -/
theorem CatchesUp.redoable {original : A} {copy : B} {operation : Op} {log : List Op}
    (catches : CatchesUp redo related ⟨original, copy, operation :: log⟩) :
    ∃ copy', redo copy operation = some copy' ∧
      CatchesUp redo related ⟨original, copy', log⟩ := by
  obtain ⟨final, redone, relates⟩ := catches
  rw [List.foldlM_cons] at redone
  obtain ⟨copy', done, rest⟩ := Option.bind_eq_some_iff.mp redone
  exact ⟨copy', done, final, rest, relates⟩

end Replay
