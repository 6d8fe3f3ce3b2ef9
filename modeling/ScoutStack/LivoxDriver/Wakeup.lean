import ScoutStack.LivoxDriver.Handoff

/-!
# No packet waits unnoticed

`PushLidarData` signals only if the semaphore is not raised.  No packet is left in a queue with
the second thread asleep for it: a token, the first thread or the second will get there.
-/

namespace ScoutStack.LivoxDriver

variable {P : Type*}

/-- The first thread will look at the semaphore. -/
def Producer.Wakes (lidar : ℕ) : Producer P → Prop
  | .pushed index => index = lidar
  | .counting => True
  | .signalling => True
  | _ => False

/-- The lidar that the first thread stores for is one of the lidars. -/
def Producer.Inside : Producer P → Prop
  | .storing index _ => index < maxSourceLidar
  | .stored index _ => index < maxSourceLidar
  | _ => True

/-- The tokens that the first thread is about to add. -/
def Producer.signals : Producer P → ℕ
  | .signalling => 1
  | _ => 0

/-- The second thread will look at the queue. -/
def Consumer.Reaches (lidar : ℕ) : Consumer P → Prop
  | .waiting => False
  | .visiting index => index ≤ lidar
  | .polling index => index ≤ lidar
  | .publishing index => index ≤ lidar
  | .popping index => index ≤ lidar
  | .copying index => index ≤ lidar
  | .copied index _ => index ≤ lidar

namespace Handoff

/-- A lidar that is visited is sampling. -/
def Sampling (_ : Handoff P) : Access P → Prop
  | .consumer sampling => sampling = true
  | _ => True

/-- Someone will take every packet. -/
structure Awake (handoff : Handoff P) : Prop extends Sound handoff where
  inside : handoff.producer.Inside
  outside : ∀ lidar, maxSourceLidar ≤ lidar → (handoff.lidars lidar).contents = []
  awake : ∀ lidar, (handoff.lidars lidar).contents ≠ [] →
    0 < handoff.count ∨ handoff.producer.Wakes lidar ∨ handoff.consumer.Reaches lidar

theorem awake_start : Awake (start : Handoff P) where
  toSound := sound_start
  inside := trivial
  outside _ _ := rfl
  awake _ some_ := absurd rfl some_

section Steps

variable {memory : ℕ → StoragePacket P} {queueSize : BitVec 32} {handoff : Handoff P}

theorem Awake.push (awake : Awake handoff) (idle : handoff.producer = .idle) {index : ℕ}
    (inside : index < maxSourceLidar) (packet : StoragePacket P) :
    Awake (handoff.push memory queueSize index packet) := by
  refine ⟨awake.toSound.push index packet, ?_, fun lidar beyond => ?_, fun lidar some_ => ?_⟩
  · change Producer.Inside (if _ then _ else _)
    split
    · trivial
    · exact inside
  · rw [awake.toSound.contents_push, awake.outside lidar beyond]
  · rw [awake.toSound.contents_push] at some_
    rcases awake.awake lidar some_ with token | wakes | reaches
    · exact .inl token
    · rw [idle] at wakes
      exact wakes.elim
    · exact .inr (.inr reaches)

/-- The first thread passes on what it will do for a packet. -/
theorem wakes_produce (sound : Sound handoff) {lidar : ℕ}
    (some_ : (handoff.lidars lidar).contents ≠ []) (wakes : handoff.producer.Wakes lidar) :
    0 < handoff.produce.count ∨ handoff.produce.producer.Wakes lidar := by
  rw [Handoff.produce]
  cases at_ : handoff.producer with
  | pushed index =>
      rw [at_] at wakes
      obtain rfl : index = lidar := wakes
      have filled : (handoff.lidars index).isEmpty = false := by
        simpa [(sound.lidars index).isEmpty_eq] using some_
      simp [filled, Producer.Wakes]
  | counting =>
      by_cases none : handoff.count = 0
      · simp [none, Producer.Wakes]
      · exact .inl (Nat.pos_of_ne_zero none)
  | signalling => exact .inl (Nat.succ_pos _)
  | _ =>
      rw [at_] at wakes
      exact wakes.elim

theorem produce_count_le (handoff : Handoff P) : handoff.count ≤ handoff.produce.count ∧
    handoff.produce.consumer = handoff.consumer := by
  rw [Handoff.produce]
  cases handoff.producer with
  | signalling => exact ⟨Nat.le_succ _, rfl⟩
  | _ => exact ⟨Nat.le_refl _, rfl⟩

theorem Awake.produce (awake : Awake handoff) : Awake handoff.produce := by
  have sound := awake.toSound
  have before := awake.inside
  obtain ⟨tokens, same⟩ := produce_count_le handoff
  refine ⟨sound.produce, ?_, fun lidar beyond => ?_, fun lidar some_ => ?_⟩
  · rw [Handoff.produce]
    cases at_ : handoff.producer with
    | idle =>
        dsimp only
        rw [at_]
        trivial
    | storing index packet =>
        rw [at_] at before
        exact before
    | pushed index =>
        dsimp only
        split <;> trivial
    | counting =>
        dsimp only
        split <;> trivial
    | _ => trivial
  · rw [sound.contents_produce, awake.outside lidar beyond, List.nil_append]
    cases at_ : handoff.producer with
    | stored index packet =>
        rw [at_] at before
        exact if_neg (Nat.ne_of_lt (Nat.lt_of_lt_of_le before beyond))
    | _ => rfl
  · rw [same]
    by_cases old : (handoff.lidars lidar).contents = []
    · -- The packet is the one that this access makes visible.
      rw [sound.contents_produce, old, List.nil_append] at some_
      cases at_ : handoff.producer with
      | stored index packet =>
          rw [at_] at some_
          have here : index = lidar := by
            by_contra elsewhere
            exact some_ (if_neg elsewhere)
          rw [Handoff.produce, at_]
          exact .inr (.inl here)
      | _ =>
          rw [at_] at some_
          exact absurd rfl some_
    · rcases awake.awake lidar old with token | wakes | reaches
      · exact .inl (Nat.lt_of_lt_of_le token tokens)
      · rcases wakes_produce sound old wakes with token | wakes'
        · exact .inl token
        · exact .inr (.inl wakes')
      · exact .inr (.inr reaches)

/-- What the second thread does with the token and with what it has left to look at. -/
theorem reaches_consume (sound : Sound handoff) {lidar : ℕ} (inside : lidar < maxSourceLidar)
    (left : ((handoff.consume true).lidars lidar).contents ≠ [])
    (coming : 0 < handoff.count ∨ handoff.consumer.Reaches lidar) :
    0 < (handoff.consume true).count ∨ (handoff.consume true).consumer.Reaches lidar := by
  have empty : ∀ index, (handoff.lidars index).isEmpty = true →
      (handoff.lidars index).contents = [] := by
    intro index none
    simpa [(sound.lidars index).isEmpty_eq] using none
  rw [Handoff.consume] at left ⊢
  cases at_ : handoff.consumer with
  | waiting =>
      rw [at_] at coming left
      have token := coming.resolve_right id
      obtain ⟨count, more⟩ := Nat.exists_eq_succ_of_ne_zero (Nat.ne_of_gt token)
      rw [more]
      exact .inr (Nat.zero_le lidar)
  | visiting index =>
      rw [at_] at coming left
      refine coming.imp (fun token => ?_) fun reaches => ?_
      · dsimp only
        split
        · exact token
        · split <;> exact token
      · have reaches : index ≤ lidar := reaches
        dsimp only at left ⊢
        rw [if_neg (Nat.not_le.mpr (Nat.lt_of_le_of_lt reaches inside))] at left ⊢
        split
        · exact reaches
        · next skipped =>
            refine Nat.lt_of_le_of_ne reaches fun here => ?_
            rw [if_neg skipped, ← here] at left
            have none : (handoff.lidars index).storagePacket = none := by
              simpa using skipped
            exact left (by simp [LidarDataQueue.contents, none])
  | polling index =>
      rw [at_] at coming left
      dsimp only at left ⊢
      split
      · next none =>
          rw [if_pos none] at left
          refine coming.imp id fun reaches => Nat.lt_of_le_of_ne reaches fun here => ?_
          exact left (here ▸ empty index none)
      · exact coming
  | publishing index =>
      rw [at_] at coming
      dsimp only
      split <;> exact coming
  | popping index =>
      rw [at_] at coming
      dsimp only
      split <;> exact coming
  | copying index =>
      rw [at_] at coming
      dsimp only
      split
      · rwa [at_]
      · exact coming
  | copied index packet =>
      rw [at_] at coming
      exact coming

theorem consume_producer (sampling : Bool) :
    (handoff.consume sampling).producer = handoff.producer := by
  rw [Handoff.consume]
  cases handoff.consumer with
  | waiting => cases handoff.count <;> rfl
  | visiting index =>
      dsimp only
      split
      · rfl
      · split <;> rfl
  | copying index =>
      dsimp only
      split <;> rfl
  | copied index packet => rfl
  | _ =>
      dsimp only
      split <;> rfl

theorem Awake.consume (awake : Awake handoff) : Awake (handoff.consume true) := by
  have sound := awake.toSound
  have fewer := fun lidar => sound.contents_consume true lidar
  refine ⟨sound.consume true, ?_, fun lidar beyond => ?_, fun lidar some_ => ?_⟩
  · rw [consume_producer]
    exact awake.inside
  · have same := fewer lidar
    rw [awake.outside lidar beyond] at same
    exact (List.append_eq_nil_iff.mp same).2
  · have old : (handoff.lidars lidar).contents ≠ [] := by
      intro none
      have same := fewer lidar
      rw [none] at same
      exact some_ (List.append_eq_nil_iff.mp same).2
    have inside : lidar < maxSourceLidar := by
      by_contra beyond
      exact old (awake.outside lidar (Nat.not_lt.mp beyond))
    rw [consume_producer]
    rcases awake.awake lidar old with token | wakes | reaches
    · exact (reaches_consume sound inside some_ (.inl token)).imp_right .inr
    · exact .inr (.inl wakes)
    · exact (reaches_consume sound inside some_ (.inr reaches)).imp_right .inr

theorem Awake.step (awake : Awake handoff) (access : Access P) (samples : Sampling handoff access) :
    Awake (handoff.step memory queueSize access) := by
  cases access with
  | push index packet =>
      rw [Handoff.step]
      cases idle : handoff.producer with
      | idle =>
          dsimp only
          split
          · next inside => exact awake.push idle inside packet
          · exact awake
      | _ => exact awake
  | producer => exact awake.produce
  | consumer sampling =>
      obtain rfl : sampling = true := samples
      exact awake.consume

/-- The tokens, with the one that the first thread is about to add. -/
def tokens (handoff : Handoff P) : ℕ := handoff.count + handoff.producer.signals

theorem tokens_produce (few : handoff.tokens ≤ 1) : handoff.produce.tokens ≤ 1 := by
  rw [tokens] at few
  rw [Handoff.produce]
  cases at_ : handoff.producer with
  | idle => exact few
  | counting =>
      rw [at_] at few
      by_cases none : handoff.count = 0
      · simp [tokens, Producer.signals, none]
      · simpa [tokens, Producer.signals, none] using few
  | pushed index =>
      rw [at_] at few
      by_cases empty : (handoff.lidars index).isEmpty = true
      · simpa [tokens, Producer.signals, empty] using few
      · simpa [tokens, Producer.signals, empty] using few
  | _ =>
      rw [at_] at few
      exact few

theorem tokens_consume (few : handoff.tokens ≤ 1) (sampling : Bool) :
    (handoff.consume sampling).tokens ≤ 1 := by
  have fewer : (handoff.consume sampling).count ≤ handoff.count := by
    rw [Handoff.consume]
    cases handoff.consumer with
    | waiting =>
        cases more : handoff.count with
        | zero => exact Nat.le_of_eq more
        | succ count => exact Nat.le_succ count
    | visiting index =>
        dsimp only
        split
        · exact Nat.le_refl _
        · split <;> exact Nat.le_refl _
    | copying index =>
        dsimp only
        split <;> exact Nat.le_refl _
    | copied index packet => exact Nat.le_refl _
    | _ =>
        dsimp only
        split <;> exact Nat.le_refl _
  rw [tokens, consume_producer]
  exact Nat.le_trans (Nat.add_le_add_right fewer _) few

theorem tokens_push (idle : handoff.producer = .idle) (few : handoff.tokens ≤ 1) (index : ℕ)
    (packet : StoragePacket P) : (handoff.push memory queueSize index packet).tokens ≤ 1 := by
  rw [tokens, idle] at few
  cases full : (handoff.opened memory queueSize index).isFull with
  | true => simpa [tokens, Handoff.push, withQueue, full, Producer.signals] using few
  | false => simpa [tokens, Handoff.push, withQueue, full, Producer.signals] using few

theorem tokens_step (few : handoff.tokens ≤ 1) (access : Access P) :
    (handoff.step memory queueSize access).tokens ≤ 1 := by
  cases access with
  | push index packet =>
      rw [Handoff.step]
      cases idle : handoff.producer with
      | idle =>
          dsimp only
          split
          · exact tokens_push idle few index packet
          · exact few
      | _ => exact few
  | producer => exact tokens_produce few
  | consumer sampling => exact tokens_consume few sampling

end Steps

/-- The semaphore never holds more than one token.  While the lidars are sampling, no packet is
in a queue with the second thread asleep, no token for it and the first thread done. -/
theorem no_packet_unnoticed (memory : ℕ → StoragePacket P) (queueSize : BitVec 32)
    (accesses : List (Access P)) :
    (Machine.run (step memory queueSize) start accesses).count ≤ 1 ∧
      (Machine.Throughout (step memory queueSize) Sampling start accesses →
        (Machine.run (step memory queueSize) start accesses).consumer = .waiting →
        (Machine.run (step memory queueSize) start accesses).count = 0 →
        (Machine.run (step memory queueSize) start accesses).producer = .idle →
        ∀ lidar, ((Machine.run (step memory queueSize) start accesses).lidars lidar).contents =
          []) := by
  constructor
  · have kept : ∀ handoff access, tokens handoff ≤ 1 → True →
        tokens (step memory queueSize handoff access) ≤ 1 :=
      fun _ access few _ => tokens_step few access
    have few : tokens (start : Handoff P) ≤ 1 := Nat.zero_le 1
    exact Nat.le_trans (Nat.le_add_right _ _) (Machine.invariant_run kept few
      (Machine.throughout_true _ accesses) (List.prefix_refl accesses))
  · intro sampling asleep none done lidar
    have kept : ∀ handoff access, Awake handoff → Sampling handoff access →
        Awake (step memory queueSize handoff access) :=
      fun _ access awake samples => awake.step access samples
    have awake := Machine.invariant_run kept awake_start sampling (List.prefix_refl accesses)
    by_contra some_
    rcases awake.awake lidar some_ with token | wakes | reaches
    · rw [none] at token
      exact Nat.lt_irrefl 0 token
    · rw [done] at wakes
      exact wakes
    · rw [asleep] at reaches
      exact reaches

end Handoff

end ScoutStack.LivoxDriver
