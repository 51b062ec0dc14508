import PadScript.Proofs.Play.Ending
import PadScript.Proofs.Play.Frames

/-!
# A write that is refused

An output answers the writes of a play one after the other. The first write it refuses
is the last thing that the play does: what was attempted up to it is the beginning of
what an undisturbed play writes, and the play ends with the fault that the output gave,
whether or not a stop was requested meanwhile. Nothing but a refused write makes a play
of standard commands fail (`refused_play`).
-/

namespace PadScript

def Event.attempt? : Event → Option (List UInt8)
  | .wrote bytes | .refused bytes _ => some bytes
  | _ => none

namespace Play

variable {play : Play} {moments : Nat → Moment} {n : Nat}

/-- The writes of the first `n` moments, the refused one included. -/
def attempts (play : Play) (moments : Nat → Moment) (n : Nat) : List (List UInt8) :=
  (play.events moments n).filterMap Event.attempt?

def Accepted (play : Play) (moments : Nat → Moment) (n : Nat) : Prop :=
  ∀ bytes fault, .refused bytes fault ∉ play.events moments n

/-- An output answers the writes of a play; they are counted from 1. -/
def AnsweredBy (play : Play) (moments : Nat → Moment) (output : Nat → Option Fault) : Prop :=
  ∀ n, (play.after moments n).pendingWrite?.isSome = true →
    (moments n).refusal = output ((play.attempts moments n).length + 1)

-- ---------------------------------------------------------------------------
-- Every output answers
-- ---------------------------------------------------------------------------

def facing (outside : Outside) (output : Nat → Option Fault) (writes : Nat) : Moment :=
  { outside with refusal := output (writes + 1) }

def counted (play : Play) (outside : Nat → Outside) (output : Nat → Option Fault) :
    Nat → Play × Nat
  | 0 => (play, 0)
  | n + 1 =>
    let (before, writes) := play.counted outside output n
    let (next, event) := before.advance (facing (outside n) output writes)
    (next, writes + (event.toList.filterMap Event.attempt?).length)

/-- The moments of a play in front of an output. -/
def facingOutput (play : Play) (outside : Nat → Outside) (output : Nat → Option Fault)
    (n : Nat) : Moment :=
  facing (outside n) output (play.counted outside output n).2

theorem attempts_succ (play : Play) (moments : Nat → Moment) (n : Nat) :
    play.attempts moments (n + 1) = play.attempts moments n ++
      ((play.after moments n).advance (moments n)).2.toList.filterMap Event.attempt? := by
  rw [attempts, events, List.filterMap_append, attempts]

theorem counted_eq (play : Play) (outside : Nat → Outside) (output : Nat → Option Fault)
    (n : Nat) : play.counted outside output n =
      (play.after (play.facingOutput outside output) n,
        (play.attempts (play.facingOutput outside output) n).length) := by
  induction n with
  | zero => rfl
  | succ n ih =>
    rw [attempts_succ, List.length_append, counted, after, facingOutput, ih]

theorem answeredBy_facingOutput (play : Play) (outside : Nat → Outside)
    (output : Nat → Option Fault) :
    play.AnsweredBy (play.facingOutput outside output) output := by
  intro n _
  rw [facingOutput, facing, counted_eq]

-- ---------------------------------------------------------------------------
-- One write
-- ---------------------------------------------------------------------------

theorem attempt?_advance (play : Play) (moment : Moment) :
    (play.advance moment).2.toList.filterMap Event.attempt? = play.pendingWrite?.toList := by
  rcases play.seen_of_advance moment with ⟨bytes, hp, ⟨-, h⟩ | ⟨fault, -, h⟩⟩ | ⟨hp, h⟩
  · rw [hp, h]
    rfl
  · rw [hp, h]
    rfl
  · rcases h with h | ⟨_, h⟩ | ⟨_, h⟩
    all_goals
      rw [hp, h]
      rfl

theorem advance_of_refusal {moment : Moment} {bytes : List UInt8} {fault : Fault}
    (hp : play.pendingWrite? = some bytes) (hm : moment.refusal = some fault) :
    (play.advance moment).1 = play.finish (.error fault) ∧
      ∃ note : Note, note.deed = .refused bytes ∧ play.note? moment = some note := by
  obtain ⟨script, goal, context, phase⟩ := play
  unfold pendingWrite? at hp
  split at hp
  · rename_i pass step bytes' next hphase
    obtain rfl := Option.some.inj hp
    obtain rfl : phase = .acting pass step (.act (.write bytes') next) := hphase
    refine ⟨by simp [advance, act, hm], ⟨moment.toOutside, pass, step, .refused bytes'⟩, rfl, ?_⟩
    simp [note?, deed?, place, hm]
  · cases hp

theorem refusal_of_advance {moment : Moment} {bytes : List UInt8} {fault : Fault}
    (h : (play.advance moment).2 = some (.refused bytes fault)) :
    play.pendingWrite? = some bytes ∧ moment.refusal = some fault := by
  rcases play.seen_of_advance moment with
    ⟨_, hp, ⟨-, he⟩ | ⟨_, hm, he⟩⟩ | ⟨-, he | ⟨_, he⟩ | ⟨_, he⟩⟩
  · cases h.symm.trans he
  · cases h.symm.trans he
    exact ⟨hp, hm⟩
  · cases h.symm.trans he
  · cases h.symm.trans he
  · cases h.symm.trans he

theorem attempts_of_accepted (h : play.Accepted moments n) :
    play.attempts moments n = written (play.notes moments n) := by
  rw [written_notes, attempts]
  refine List.filterMap_congr fun event hevent => ?_
  cases event with
  | refused bytes fault => exact absurd hevent (h bytes fault)
  | _ => rfl

-- ---------------------------------------------------------------------------
-- All writes
-- ---------------------------------------------------------------------------

/-- With its last action, which was a refused write, the play has failed. -/
structure Failed (play : Play) (moments : Nat → Moment) (fault : Fault) (n : Nat) : Prop where
  result : (play.after moments n).result? = some (.error fault)
  last : ∃ (earlier : List Note) (note : Note) (bytes : List UInt8),
    note.deed = .refused bytes ∧ play.notes moments n = earlier ++ [note] ∧
      play.attempts moments n = written earlier ++ [bytes]

section Answered

variable {output : Nat → Option Fault} {j : Nat} {fault : Fault}

theorem attempts_step (ha : play.AnsweredBy moments output)
    (hok : ∀ k, 0 < k → k < j → output k = none) (hfault : output j = some fault)
    (hlt : (play.attempts moments n).length < j) (haccepted : play.Accepted moments n) :
    (play.attempts moments (n + 1)).length < j ∧ play.Accepted moments (n + 1) ∨
      (play.attempts moments (n + 1)).length = j ∧ play.Failed moments fault (n + 1) := by
  have hsucc := play.attempts_succ moments n
  rw [attempt?_advance] at hsucc
  -- Only a refusal at this very moment would be new.
  have hkept (hn : (play.after moments n).pendingWrite?.isSome = true →
      (moments n).refusal = none) : play.Accepted moments (n + 1) := by
    intro bytes fault hmem
    rcases List.mem_append.1 hmem with hmem | hmem
    · exact haccepted bytes fault hmem
    · obtain ⟨hp, hm⟩ := refusal_of_advance (Option.mem_toList.1 hmem)
      rw [hn (by rw [hp]; rfl)] at hm
      cases hm
  cases hp : (play.after moments n).pendingWrite? with
  | none =>
    refine .inl ⟨by simpa [hsucc, hp] using hlt, hkept (by simp [hp])⟩
  | some bytes =>
    have hanswer := ha n (by rw [hp]; rfl)
    rw [hp] at hsucc
    rcases Nat.lt_or_eq_of_le (Nat.succ_le_of_lt hlt) with hbefore | hat
    · refine .inl ⟨by simpa [hsucc] using hbefore, hkept fun _ => ?_⟩
      rw [hanswer, hok _ (Nat.succ_pos _) hbefore]
    · rw [show (play.attempts moments n).length + 1 = j from hat, hfault] at hanswer
      obtain ⟨hafter, note, hdeed, hnote⟩ := advance_of_refusal hp hanswer
      refine .inr ⟨by simpa [hsucc] using hat, ?_, play.notes moments n, note, bytes, hdeed, ?_, ?_⟩
      · rw [after, hafter, result?_finish]
      · rw [notes, hnote]
        rfl
      · rw [hsucc, attempts_of_accepted haccepted]
        rfl

theorem Failed.succ (h : play.Failed moments fault n) :
    play.attempts moments (n + 1) = play.attempts moments n ∧
      play.Failed moments fault (n + 1) := by
  obtain ⟨hafter, hevents, hnotes⟩ := after_finished h.result (Nat.le_succ n)
  have hattempts : play.attempts moments (n + 1) = play.attempts moments n := by
    rw [attempts, hevents, attempts]
  exact ⟨hattempts, by rw [hafter]; exact h.result, by rw [hnotes, hattempts]; exact h.last⟩

/-- Up to the write that is refused everything is accepted, and nothing comes after it. -/
theorem attempts_cases (ha : play.AnsweredBy moments output)
    (hok : ∀ k, 0 < k → k < j → output k = none) (hfault : output j = some fault) (hj : 0 < j)
    (n : Nat) :
    (play.attempts moments n).length < j ∧ play.Accepted moments n ∨
      (play.attempts moments n).length = j ∧ play.Failed moments fault n := by
  induction n with
  | zero => exact .inl ⟨hj, by simp [Accepted, events]⟩
  | succ n ih =>
    obtain ⟨hlt, haccepted⟩ | ⟨heq, hfailed⟩ := ih
    · exact attempts_step ha hok hfault hlt haccepted
    · obtain ⟨hattempts, hfailed'⟩ := hfailed.succ
      exact .inr ⟨by rw [hattempts, heq], hfailed'⟩

end Answered

end Play

-- ---------------------------------------------------------------------------
-- Standard commands
-- ---------------------------------------------------------------------------

def RejectedWithin (script : Script) (goal : Goal) (notes : List Note) : Prop :=
  ∃ (passes : Nat) (earlier : List Note) (note : Note) (bytes : List UInt8),
    (∀ count, goal.passes? = some count → passes = count) ∧ notes = earlier ++ [note] ∧
      note.deed = .refused bytes ∧ written earlier ++ [bytes] <+: script.ideal passes

section Passes

variable {script : Script} {goal : Goal} {pass step : Nat}

theorem rejectedWithin_expects (he : ¬ goal.Enough pass) :
    Promise.Expects ⟨pass, step, fun _ _ => True, RejectedWithin script goal⟩ script (pass + 1)
    where
  always _ _ := trivial
  aborted := by
    intro notes note bytes hn hp
    cases hc : goal.passes? with
    | none => exact ⟨pass + 1, notes, note, bytes, by simp [hc], rfl, hn, hp⟩
    | some count =>
      have hle : pass + 1 ≤ count := not_enough_iff.1 he count hc
      have hideal : script.ideal (pass + 1) <+: script.ideal count :=
        strokes_prefix (Script.pressesOf_prefix hle)
      exact ⟨count, notes, note, bytes, by simp [hc], rfl, hn, hp.trans hideal⟩

theorem refusalOutline_sound (hs : script.Standard) :
    { framesOutline script goal with aborted := RejectedWithin script goal }.Sound script goal := by
  refine (framesOutline_sound hs).aborting fun hstep hf hstop ⟨he, hd⟩ => ?_
  refine (step_meets hs (rejectedWithin_expects he) hstep (hd.quiet rfl)).mono ?_
  exact fun _ _ _ hd => ⟨he, hd⟩

theorem rejected_of_result? (hs : script.Standard) {progress : Progress} {moments : Nat → Moment}
    (hm : Steady moments) {n : Nat} {fault : Fault}
    (h : ((Play.start script goal progress).after moments n).result? = some (.error fault)) :
    RejectedWithin script goal ((Play.start script goal progress).notes moments n) := by
  have hinitially : (framesOutline script goal).initially goal { progress := progress.reset } [] :=
    framesOutline_initially progress.reset
  have hat := (refusalOutline_sound hs).at_after hinitially hm n
  rwa [Play.phase_of_result? h] at hat

end Passes

/-- An output accepts the first writes of a play of a standard script and refuses the
`j`-th. Once that is attempted it is the last thing the play does: the attempts are the
first `j` frames of its passes, the play has failed with the fault of the output, whatever
was requested meanwhile, and what it published is idle. Before, the play cannot fail; and
it does end, unless it is to go on until it is stopped and nobody stops it. -/
theorem refused_play {registry : Registry} {source : List String} {script : Script}
    (hr : registry.Standard) (hs : Script.ofLines registry source = .ok script) (goal : Goal)
    (progress : Progress) {moments : Nat → Moment} (hm : Steady moments)
    {output : Nat → Option Fault} (ha : (Play.start script goal progress).AnsweredBy moments output)
    {j : Nat} {fault : Fault} (hj : 0 < j) (hok : ∀ k, 0 < k → k < j → output k = none)
    (hfault : output j = some fault) :
    let play := Play.start script goal progress
    (∀ n, j ≤ (play.attempts moments n).length →
      (play.attempts moments n).length = j ∧
      (∃ passes, (∀ count, goal.passes? = some count → passes = count) ∧
        j ≤ (script.ideal passes).length ∧
        play.attempts moments n = (script.ideal passes).take j) ∧
      (play.after moments n).result? = some (.error fault) ∧
      (play.after moments n).progress.Idle ∧
      (∃ earlier note bytes, play.notes moments n = earlier ++ [note] ∧
        note.deed = .refused bytes) ∧
      ∀ m, n ≤ m → play.notes moments m = play.notes moments n) ∧
    (∀ n result, (play.attempts moments n).length < j →
      (play.after moments n).result? = some result → ∃ outcome, result = .ok outcome) ∧
    ((∀ time, ∃ n, time ≤ (moments n).now) →
      (goal.passes? = none → ∃ n, (moments n).stopRequested = true) →
      ∃ n result, (play.after moments n).result? = some result) := by
  intro play
  have hstandard : script.Standard := Script.standard_of_ofLines hr hs
  refine ⟨fun n hn => ?_, fun n result hn hresult => ?_,
    fun hclock hstop => play.ends hm hclock hstop⟩
  · obtain ⟨hlt, -⟩ | ⟨hlength, hresult, earlier, note, bytes, hdeed, hnotes, hattempts⟩ :=
      Play.attempts_cases ha hok hfault hj n
    · exact absurd hn (Nat.not_le.2 hlt)
    · obtain ⟨passes, earlier', note', bytes', hpasses, hnotes', hdeed', hideal⟩ :=
        rejected_of_result? hstandard hm hresult
      obtain ⟨rfl, hlast⟩ := List.append_inj' (hnotes.symm.trans hnotes') rfl
      obtain rfl : note = note' := List.singleton_inj.1 hlast
      obtain rfl : bytes = bytes' := by simpa [hdeed] using hdeed'
      rw [← hattempts] at hideal
      refine ⟨hlength, ⟨passes, hpasses, ?_, ?_⟩, hresult, Play.idle_of_result? _ _ _ hresult,
        ⟨earlier, note, bytes, hnotes, hdeed⟩, fun m hnm => (Play.after_finished hresult hnm).2.2⟩
      · rw [← hlength]
        exact hideal.length_le
      · rw [List.prefix_iff_eq_take.1 hideal, hlength]
  · obtain ⟨-, haccepted⟩ | ⟨hlength, -⟩ := Play.attempts_cases ha hok hfault hj n
    · cases result with
      | ok outcome => exact ⟨outcome, rfl⟩
      | error other =>
        obtain ⟨_, earlier, note, bytes, -, hnotes, hdeed, -⟩ :=
          rejected_of_result? hstandard hm hresult
        obtain ⟨fault', hmem⟩ := Play.refused_notes (by rw [hnotes]; simp) hdeed
        exact absurd hmem (haccepted bytes fault')
    · exact absurd hlength (Nat.ne_of_lt hn)

def unplugged (write : Nat) : Option Fault :=
  if write ≤ 1 then none else some ⟨.brokenPipe, "unplugged"⟩

/-- The release of a hold that a stop has cut short is refused, and the play fails. -/
theorem refused_play_released :
    Script.ofLines .builtin ["Press A,X -d=1"] =
        .ok (.ofEntries [(0, .press ⟨[Buttons.a, Buttons.x], 1, 0, none⟩)]) ∧
      ∃ play moments, play =
          Play.start (.ofEntries [(0, .press ⟨[Buttons.a, Buttons.x], 1, 0, none⟩)])
            (.repeated (-1)) {} ∧
        play.AnsweredBy moments unplugged ∧ (moments 6).stopRequested = true ∧
        play.attempts moments 7 = [Buttons.a.frame, Buttons.released.frame] ∧
        (play.after moments 7).result? = some (.error ⟨.brokenPipe, "unplugged"⟩) ∧
        (play.after moments 7).progress.Idle := by
  have hread : Script.ofLines .builtin ["Press A,X -d=1"] =
      .ok (.ofEntries [(0, .press ⟨[Buttons.a, Buttons.x], 1, 0, none⟩)]) := by rfl
  let play := Play.start (.ofEntries [(0, .press ⟨[Buttons.a, Buttons.x], 1, 0, none⟩)])
    (.repeated (-1)) {}
  let outside (n : Nat) : Outside := (Moment.ticks 5 n).toOutside
  let moments := play.facingOutput outside unplugged
  have hm : Steady moments := ⟨(steady_ticks 5).clock, (steady_ticks 5).stop⟩
  have hanswered : play.AnsweredBy moments unplugged :=
    play.answeredBy_facingOutput outside unplugged
  have hattempts : play.attempts moments 7 = [Buttons.a.frame, Buttons.released.frame] := by
    decide +kernel
  have hfails := (refused_play (.inl rfl) hread (.repeated (-1)) {} hm hanswered (j := 2)
    (by decide) (fun k _ hk => if_pos (Nat.le_of_lt_succ hk)) rfl).1 7 (by rw [hattempts]; decide)
  obtain ⟨-, -, hresult, hidle, -⟩ := hfails
  exact ⟨hread, play, moments, rfl, hanswered, by decide, hattempts, hresult, hidle⟩

end PadScript
