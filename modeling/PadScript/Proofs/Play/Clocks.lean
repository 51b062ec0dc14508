import PadScript.Proofs.Play.Ending

/-!
# The timers of a play, as published

A play keeps its timers to itself and publishes a mark for each of them. What one
moment can do to what a play owns is listed in `Context.Moves`; none of it moves a
timer without its mark or a mark without its timer, whatever the commands are. So at
every moment of a play an observer learns from the marks what the timers would tell
(`published_timers`).
-/

namespace PadScript

-- ---------------------------------------------------------------------------
-- Marks
-- ---------------------------------------------------------------------------

/-- A time since the progress was created, near enough for a mark to hold it. -/
structure Progress.Dates (progress : Progress) (time : Time) : Prop where
  created : progress.epoch ≤ time
  fits : time - progress.epoch < UInt64.size - 1

/-- The mark of a label stands for the last restart of its timer, if there was one. -/
def Progress.Marked (progress : Progress) (label : Label) : Option Time → Prop
  | none => progress.marks.get label = 0
  | some since => progress.Dates since ∧
      progress.marks.get label = UInt64.ofNat (since - progress.epoch) + 1

namespace Progress

theorem toNat_mark {nanos : Nat} (h : nanos < UInt64.size - 1) :
    (UInt64.ofNat nanos + 1).toNat = nanos + 1 := by
  have hlt : nanos < 2 ^ 64 - 1 := h
  rw [UInt64.toNat_add, UInt64.toNat_ofNat_of_lt' (show nanos < 2 ^ 64 by omega)]
  exact Nat.mod_eq_of_lt (show nanos + 1 < 2 ^ 64 by omega)

variable {progress : Progress} {label : Label} {since : Time}

theorem Dates.mark_ne_zero (h : progress.Dates since) :
    UInt64.ofNat (since - progress.epoch) + 1 ≠ 0 := by
  intro hzero
  have hmark := toNat_mark h.fits
  rw [hzero] at hmark
  exact Nat.succ_ne_zero _ hmark.symm

theorem Dates.toNat_mark_sub_one (h : progress.Dates since) :
    (UInt64.ofNat (since - progress.epoch) + 1 - 1).toNat = since - progress.epoch := by
  rw [UInt64.add_sub_cancel]
  exact UInt64.toNat_ofNat_of_lt' (h.fits.trans (Nat.sub_lt (by decide) Nat.one_pos))

theorem Marked.timerStarted {since? : Option Time} (h : progress.Marked label since?) :
    progress.timerStarted label = since?.isSome := by
  cases since? with
  | none =>
    have hmark : progress.marks.get label = 0 := h
    simp [Progress.timerStarted, hmark]
  | some since =>
    obtain ⟨hdates, hmark⟩ := h
    simp [Progress.timerStarted, hmark, hdates.mark_ne_zero]

theorem Marked.timerElapsed {since? : Option Time} (h : progress.Marked label since?)
    (now : Time) : progress.timerElapsed label now = (since?.map (now - ·)).getD 0 := by
  cases since? with
  | none =>
    have hmark : progress.marks.get label = 0 := h
    simp [Progress.timerElapsed, hmark]
  | some since =>
    obtain ⟨hdates, hmark⟩ := h
    have hsince : progress.epoch + (since - progress.epoch) = since :=
      Nat.add_sub_cancel' hdates.created
    simp only [Progress.timerElapsed, hmark, hdates.mark_ne_zero, if_false, Option.map_some,
      Option.getD_some]
    rw [hdates.toNat_mark_sub_one, hsince]

theorem Marked.congr {next : Progress} {since? : Option Time} (h : progress.Marked label since?)
    (hepoch : next.epoch = progress.epoch)
    (hmark : next.marks.get label = progress.marks.get label) : next.Marked label since? := by
  cases since? with
  | none => exact hmark.trans h
  | some since =>
    obtain ⟨⟨hcreated, hfits⟩, hsince⟩ := h
    exact ⟨⟨by rwa [hepoch], by rwa [hepoch]⟩, by rw [hmark, hsince, hepoch]⟩

end Progress

-- ---------------------------------------------------------------------------
-- What one moment does
-- ---------------------------------------------------------------------------

/-- What a moment can do to what a play owns before the play is over: publish where the
play is, perform an action, or begin a wait. -/
inductive Context.Moves (context : Context) (now : Time) : Context → Prop
  | publish (progress : Progress) (hepoch : progress.epoch = context.progress.epoch)
      (hmarks : progress.marks = context.progress.marks) :
      context.Moves now { context with progress }
  | perform (action : Action) : context.Moves now (context.perform action now)
  | pause (pause : Pause) : context.Moves now (context.beginPause pause now).1

namespace Play

variable {play : Play}

theorem moves_same (context : Context) (now : Time) : context.Moves now context :=
  .publish context.progress rfl rfl

theorem moves_endPass (pass : Nat) (now : Time) :
    play.context.Moves now (play.endPass pass).context :=
  .publish play.context.progress.endPass rfl rfl

theorem moves_beginPass (pass : Nat) (moment : Moment) :
    play.context.Moves moment.now (play.beginPass pass moment).context := by
  obtain ⟨script, goal, context, phase⟩ := play
  cases goal with
  | once => exact moves_same context moment.now
  | repeated count =>
    simp only [beginPass]
    split
    · exact moves_same context moment.now
    · exact .publish _ rfl rfl

theorem moves_beginStep (pass step : Nat) (moment : Moment) :
    play.context.Moves moment.now (play.beginStep pass step moment).context := by
  unfold beginStep
  split
  · exact moves_endPass pass moment.now
  · split
    · exact moves_endPass pass moment.now
    · exact .publish _ rfl rfl

theorem moves_advance {moment : Moment} (h : (play.advance moment).1.result? = none) :
    play.context.Moves moment.now (play.advance moment).1.context := by
  obtain ⟨script, goal, context, phase⟩ := play
  cases phase with
  | atPass pass => exact moves_beginPass pass moment
  | atStep pass step => exact moves_beginStep pass step moment
  | acting pass step routine =>
    cases routine with
    | act action next =>
      cases action with
      | write bytes =>
        simp only [advance, act] at h ⊢
        split at h
        · cases h
        · exact moves_same context moment.now
      | restartTimer label => exact .perform (.restartTimer label)
      | startTimer label => exact .perform (.startTimer label)
      | restartDelay => exact .perform .restartDelay
      | nextHit => exact .perform .nextHit
      | store change => exact .perform (.store change)
      | log entry => exact .perform (.log entry)
      | signal message => exact .perform (.signal message)
    | pause p next =>
      cases p with
      | delay ms fresh => exact .pause (.delay ms fresh)
      | timer label ms => exact .pause (.timer label ms)
    | fail fault => cases h
    | done result => exact moves_same context moment.now
    | check next => exact moves_same context moment.now
    | consult next => exact moves_same context moment.now
  | waiting pass step deadline next =>
    simp only [advance]
    split <;> exact moves_same context moment.now
  | ending => cases h
  | finished result => cases h

end Play

-- ---------------------------------------------------------------------------
-- Timers and marks
-- ---------------------------------------------------------------------------

def Context.ShowsTimers (context : Context) : Prop :=
  ∀ label, context.progress.Marked label (context.timers.restartedAt label)

namespace Context

variable {context next : Context} {now : Time}

theorem showsTimers_start (progress : Progress) :
    ShowsTimers { progress := progress.reset } := by
  intro label
  change progress.reset.Marked label (Timers.restartedAt {} label)
  have hnone : Timers.restartedAt {} label = none := by simp [Timers.restartedAt]
  rw [hnone]
  simp [Progress.Marked, Progress.reset]

theorem ShowsTimers.congr (h : context.ShowsTimers)
    (hepoch : next.progress.epoch = context.progress.epoch)
    (hmarks : next.progress.marks = context.progress.marks)
    (htimers : ∀ label, next.timers.restartedAt label = context.timers.restartedAt label) :
    next.ShowsTimers := by
  intro label
  rw [htimers label]
  exact (h label).congr hepoch (by rw [hmarks])

theorem ShowsTimers.restartTimer (h : context.ShowsTimers) (hd : context.progress.Dates now)
    (label : Label) : (context.restartTimer label now).ShowsTimers := by
  intro other
  by_cases he : other = label
  · subst he
    have htimer : (context.restartTimer other now).timers.restartedAt other = some now :=
      Timers.restartedAt_restart_self _ _ _
    rw [htimer]
    exact ⟨⟨hd.created, hd.fits⟩, Progress.marks_markTimer_self _ _ _⟩
  · have htimer : (context.restartTimer label now).timers.restartedAt other =
        context.timers.restartedAt other := Timers.restartedAt_restart_of_ne _ _ he
    rw [htimer]
    exact (h other).congr rfl (Labelled.get_set_of_ne _ _ he)

theorem ShowsTimers.perform (h : context.ShowsTimers) (hd : context.progress.Dates now)
    (action : Action) : (context.perform action now).ShowsTimers := by
  cases action with
  | restartTimer label => exact h.restartTimer hd label
  | startTimer label =>
    refine (h.restartTimer hd label).congr ?_ ?_ fun _ => rfl
    all_goals
      simp only [Context.perform, Context.startTimer, Progress.activateHits]
      split <;> rfl
  | _ => exact h.congr rfl rfl fun _ => rfl

theorem ShowsTimers.moves (h : context.ShowsTimers) (hd : context.progress.Dates now)
    (hm : context.Moves now next) : next.ShowsTimers := by
  cases hm with
  | publish progress hepoch hmarks => exact h.congr hepoch hmarks fun _ => rfl
  | perform action => exact h.perform hd action
  | pause p =>
    cases p with
    | delay ms fresh => exact h.congr rfl rfl (Timers.restartedAt_beginDelay _ _ _ _)
    | timer label ms => exact h

theorem Moves.epoch (h : context.Moves now next) :
    next.progress.epoch = context.progress.epoch := by
  cases h with
  | publish progress hepoch hmarks => exact hepoch
  | perform action =>
    cases action with
    | startTimer label =>
      simp only [Context.perform, Context.startTimer, Progress.activateHits]
      split <;> rfl
    | _ => rfl
  | pause p => cases p <;> rfl

end Context

-- ---------------------------------------------------------------------------
-- Whole plays
-- ---------------------------------------------------------------------------

namespace Play

variable {play : Play} {moments : Nat → Moment}

theorem epoch_advance (play : Play) (moment : Moment) :
    (play.advance moment).1.progress.epoch = play.progress.epoch := by
  cases hresult : (play.advance moment).1.result? with
  | none => exact (moves_advance hresult).epoch
  | some result =>
    cases hbefore : play.result? with
    | some earlier => rw [advance_finished (phase_of_result? hbefore)]
    | none =>
      rw [finish_of_advance hbefore hresult]
      rfl

theorem epoch_after (play : Play) (moments : Nat → Moment) (n : Nat) :
    (play.after moments n).progress.epoch = play.progress.epoch := by
  induction n with
  | zero => rfl
  | succ n ih => exact (epoch_advance _ _).trans ih

theorem showsTimers_after (h : play.context.ShowsTimers) (n : Nat)
    (hd : ∀ k < n, play.progress.Dates (moments k).now)
    (hresult : (play.after moments n).result? = none) :
    (play.after moments n).context.ShowsTimers := by
  induction n with
  | zero => exact h
  | succ n ih =>
    have hbefore : (play.after moments n).result? = none := by
      by_contra hover
      obtain ⟨result, hover⟩ := Option.ne_none_iff_exists'.1 hover
      rw [(after_finished hover (Nat.le_succ n)).1, hover] at hresult
      cases hresult
    have hdates := hd n (Nat.lt_succ_self n)
    refine (ih (fun k hk => hd k (Nat.lt_succ_of_lt hk)) hbefore).moves ?_ (moves_advance hresult)
    have hepoch : (play.after moments n).context.progress.epoch = play.progress.epoch :=
      play.epoch_after moments n
    exact ⟨hepoch ▸ hdates.created, hepoch ▸ hdates.fits⟩

end Play

/-- A play that was made before, up to one of its moments. It may have been over by then,
or broken off. -/
structure EarlierPlay where
  script : Script
  goal : Goal
  moments : Nat → Moment
  count : Nat

/-- What plays one after the other, each on the progress that the one before left, leave
of a progress. -/
def Progress.afterPlays (created : Progress) (plays : List EarlierPlay) : Progress :=
  plays.foldl (fun progress earlier =>
    let play := Play.start earlier.script earlier.goal progress
    (play.after earlier.moments earlier.count).progress) created

theorem Progress.epoch_afterPlays (created : Progress) (plays : List EarlierPlay) :
    (created.afterPlays plays).epoch = created.epoch := by
  induction plays generalizing created with
  | nil => rfl
  | cons earlier rest ih =>
    have hplay := (Play.start earlier.script earlier.goal created).epoch_after earlier.moments
      earlier.count
    exact (ih _).trans hplay

/-- A play begins with no timer started and none published, however the plays before it on
the same progress ended. Then, until it is over, the published timers are its own at every
moment: the same are started, and read at the same time they show the same time elapsed. -/
theorem published_timers (created : Progress) (earlier : List EarlierPlay) (script : Script)
    (goal : Goal) (moments : Nat → Moment) (hclock : ∀ n, (moments n).now ≤ (moments (n + 1)).now)
    (hcreated : created.epoch ≤ (moments 0).now) :
    let play := Play.start script goal (created.afterPlays earlier)
    (∀ label, play.context.timers.isStarted label = false ∧
      play.progress.timerStarted label = false) ∧
    ∀ n, (∀ k < n, (moments k).now - created.epoch < UInt64.size - 1) →
      (play.after moments n).result? = none → ∀ label,
        (play.after moments n).progress.timerStarted label =
          (play.after moments n).context.timers.isStarted label ∧
        ∀ now, (play.after moments n).progress.timerElapsed label now =
          (play.after moments n).context.timers.elapsed label now := by
  intro play
  have hstart : play.context.ShowsTimers := Context.showsTimers_start _
  have hfresh (label : Label) : play.context.timers.restartedAt label = none := by
    simp [play, Play.start, Timers.restartedAt]
  refine ⟨fun label => ?_, fun n hfits hresult label => ?_⟩
  · refine ⟨by rw [Timers.isStarted, hfresh]; rfl, ?_⟩
    exact (created.afterPlays earlier).timerStarted_reset label
  · have hepoch : play.progress.epoch = created.epoch := created.epoch_afterPlays earlier
    have hdates (k : Nat) (hk : k < n) : play.progress.Dates (moments k).now := by
      refine ⟨?_, by rw [hepoch]; exact hfits k hk⟩
      rw [hepoch]
      exact hcreated.trans (monotone_nat_of_le_succ hclock (Nat.zero_le k))
    have hmarked := Play.showsTimers_after hstart n hdates hresult label
    refine ⟨hmarked.timerStarted, fun now => ?_⟩
    refine (hmarked.timerElapsed now).trans ?_
    rw [Timers.elapsed]
    cases (play.after moments n).context.timers.restartedAt label <;> rfl

def twoTimers (started other : Label) : Script where
  steps := #[⟨0, 0, .start ⟨some started⟩⟩,
    ⟨1, 1, .extension (Routine.perform (.restartTimer other))⟩,
    ⟨2, 2, .press ⟨[Buttons.a], 5, 0, none⟩⟩]
  plan := #[]

def unluckyPlays (script : Script) : List EarlierPlay :=
  [⟨script, .repeated (-1), Moment.ticks 8, 40⟩,
    ⟨script, .once, fun n => { Moment.ticks 100 n with refusal := some ⟨.other, "no"⟩ }, 40⟩,
    ⟨script, .once, Moment.ticks 100, 7⟩]

/-- The last of the plays before left a timer published as started. The next play begins
without it, and in its second pass an observer sees the extension's restart in that pass. -/
theorem published_timers_again :
    let left := Progress.afterPlays { epoch := 5 } (unluckyPlays (twoTimers 3 7))
    let moments n := Moment.ticks 100 (n + 1)
    let play := Play.start (twoTimers 3 7) (.repeated 2) left
    left.timerStarted 3 = true ∧ play.progress.timerStarted 3 = false ∧
      (play.after moments 35).progress.timerStarted 7 = true ∧
      (play.after moments 35).progress.timerElapsed 7 (Time.ofMillis 50) = Time.ofMillis 21 := by
  intro left moments play
  obtain ⟨hfresh, hshown⟩ := published_timers { epoch := 5 } (unluckyPlays (twoTimers 3 7))
    (twoTimers 3 7) (.repeated 2) moments (fun n => (steady_ticks 100).clock (n + 1)) (by decide)
  obtain ⟨hstarted, helapsed⟩ := hshown 35 (by decide +kernel) (by decide +kernel) 7
  refine ⟨by decide +kernel, (hfresh 3).2, hstarted.trans ?_, (helapsed _).trans ?_⟩
  · decide +kernel
  · decide +kernel

end PadScript
