import LightKernel.Core.Types

/-!
# The dispatcher's decision

`make_scheduling_decision` asks the stop, real-time, deadline and fair classes for a candidate, in this order: the
source ranks real-time above deadline, as `priority_class` does. A real-time or deadline candidate wins at once
when there is no current task, or when its class's preemption check says so, and then a preemption is counted;
when the check declines, the decision goes on to the next class. A fair candidate that its check declines keeps
the current task, whatever that task's state. With no candidate at all a running current task is kept, and
otherwise the CPU goes idle.

* `makeSchedulingDecision_ok`: every decision the dispatcher can return, with what it counts;
* `makeSchedulingDecision_switchTo`: a switch goes to the first class, in that order, whose candidate is accepted
  (`firstAccepted`), so past a declined real-time candidate the decision falls through to a lower class
  (`declined_candidate_falls_through`);
* `makeSchedulingDecision_goIdle`, `makeSchedulingDecision_keepCurrent`: when the CPU idles and when the current
  task is kept;
* `makeSchedulingDecision_stats`: the decision counts at most one preemption, and only with a switch.
-/

namespace LightKernel.Core

/-- The answers of the dispatcher's collaborators on one CPU: `get_current_task`, the four `pick_next_task`s and
the three `should_preempt_for_*` checks. -/
structure Pickers where
  current : Option Task
  stop : Except KernelError (Option Task)
  rt : Except KernelError (Option Task)
  deadline : Except KernelError (Option Task)
  fair : Except KernelError (Option Task)
  shouldPreemptForRt : Task → Task → Except KernelError Bool
  shouldPreemptForDeadline : Task → Task → Except KernelError Bool
  shouldPreemptForFair : Task → Task → Except KernelError Bool

/-- `global_stats.preemptions.fetch_add(1)`. -/
def SchedulerStats.countPreemption (s : SchedulerStats) : SchedulerStats :=
  { s with preemptions := s.preemptions + 1 }

@[simp] theorem SchedulerStats.countPreemption_preemptions (s : SchedulerStats) :
    s.countPreemption.preemptions = s.preemptions + 1 := rfl

@[simp] theorem SchedulerStats.countPreemption_contextSwitches (s : SchedulerStats) :
    s.countPreemption.contextSwitches = s.contextSwitches := rfl

/-- A decision with the statistics it leaves. -/
abbrev Decision := Except KernelError (ScheduleResult × SchedulerStats)

/-- The real-time and the deadline branch: the candidate wins without a current task or when the check says so,
counting a preemption; otherwise the decision falls through to `rest`. -/
def preemptingClass (pick : Except KernelError (Option Task))
    (shouldPreempt : Task → Task → Except KernelError Bool) (current : Option Task) (st : SchedulerStats)
    (rest : Decision) : Decision := do
  match ← pick with
  | none => rest
  | some t =>
    match current with
    | none => pure (.switchTo t.id, st)
    | some c => if ← shouldPreempt c t then pure (.switchTo t.id, st.countPreemption) else rest

/-- The fair branch and the fall-back after it. -/
def fairClass (p : Pickers) (st : SchedulerStats) : Decision := do
  match ← p.fair with
  | some t =>
    match p.current with
    | none => pure (.switchTo t.id, st)
    | some c =>
      let preempt ← p.shouldPreemptForFair c t
      pure (if preempt then .switchTo t.id else .keepCurrent, st)
  | none =>
    match p.current with
    | some c => pure (if c.state = .running then .keepCurrent else .goIdle, st)
    | none => pure (.goIdle, st)

/-- `make_scheduling_decision`. -/
def makeSchedulingDecision (p : Pickers) (st : SchedulerStats) : Decision := do
  match ← p.stop with
  | some t => pure (.switchTo t.id, st)
  | none =>
    preemptingClass p.rt p.shouldPreemptForRt p.current st <|
      preemptingClass p.deadline p.shouldPreemptForDeadline p.current st <|
        fairClass p st

/-! ## Accepted candidates -/

/-- The candidate a class puts forward, when it is accepted: there is no current task, or the class's check says
yes. -/
def acceptedCandidate (pick : Except KernelError (Option Task))
    (shouldPreempt : Task → Task → Except KernelError Bool) (current : Option Task) : Option Task :=
  match pick, current with
  | .ok (some t), none => some t
  | .ok (some t), some c =>
    match shouldPreempt c t with
    | .ok true => some t
    | _ => none
  | _, _ => none

@[simp] theorem acceptedCandidate_ok_none (sp : Task → Task → Except KernelError Bool) (cur : Option Task) :
    acceptedCandidate (.ok none) sp cur = none := by
  cases cur <;> rfl

/-- The stop candidate, which is never checked against the current task. -/
def stopCandidate (p : Pickers) : Option Task :=
  match p.stop with
  | .ok (some t) => some t
  | _ => none

/-- The first class, in the order stop, real-time, deadline, fair, whose candidate is accepted. -/
def firstAccepted (p : Pickers) : Option Task :=
  (stopCandidate p).or <| (acceptedCandidate p.rt p.shouldPreemptForRt p.current).or <|
    (acceptedCandidate p.deadline p.shouldPreemptForDeadline p.current).or
      (acceptedCandidate p.fair p.shouldPreemptForFair p.current)

/-! ## One branch at a time -/

section Branches

variable {pick : Except KernelError (Option Task)} {sp : Task → Task → Except KernelError Bool}
  {cur : Option Task} {p : Pickers} {st st' : SchedulerStats} {rest : Decision} {r : ScheduleResult}

/-- What a real-time or deadline branch can do: switch to its accepted candidate, counting a preemption or not,
or hand over to the rest of the decision. -/
theorem preemptingClass_ok (h : preemptingClass pick sp cur st rest = .ok (r, st')) :
    (∃ t, acceptedCandidate pick sp cur = some t ∧ r = .switchTo t.id ∧ (st' = st ∨ st' = st.countPreemption)) ∨
    (acceptedCandidate pick sp cur = none ∧ rest = .ok (r, st')) := by
  unfold preemptingClass at h
  rcases pick with e | _ | t
  · cases h
  · exact .inr ⟨rfl, h⟩
  · rcases cur with _ | c
    · cases h; exact .inl ⟨t, rfl, rfl, .inl rfl⟩
    · simp only [acceptedCandidate]
      rcases hc : sp c t with e | _ | _ <;> simp [hc, bind, Except.bind, pure, Except.pure] at h ⊢
      · exact h
      · exact ⟨h.1.symm, .inr h.2.symm⟩

/-- What the fair branch can do: switch to its accepted candidate, keep the current task (running, or with its
candidate declined), or go idle. It counts nothing. -/
theorem fairClass_ok (h : fairClass p st = .ok (r, st')) : st' = st ∧
    ((∃ t, acceptedCandidate p.fair p.shouldPreemptForFair p.current = some t ∧ r = .switchTo t.id) ∨
     (∃ c, p.current = some c ∧ r = .keepCurrent ∧ acceptedCandidate p.fair p.shouldPreemptForFair p.current = none ∧
        (c.state = .running ∨ ∃ f, p.fair = .ok (some f) ∧ p.shouldPreemptForFair c f = .ok false)) ∨
     (p.fair = .ok none ∧ r = .goIdle ∧ ∀ c, p.current = some c → c.state ≠ .running)) := by
  unfold fairClass at h
  rcases hf : p.fair with e | _ | t <;> simp only [hf, bind, Except.bind] at h
  · cases h
  · rcases hc : p.current with _ | c <;>
      simp only [hc, pure, Except.pure, Except.ok.injEq, Prod.mk.injEq] at h
    · exact ⟨h.2.symm, .inr (.inr ⟨rfl, h.1.symm, by simp⟩)⟩
    · by_cases hs : c.state = .running <;> simp only [hs, if_true, if_false] at h
      · exact ⟨h.2.symm, .inr (.inl ⟨c, rfl, h.1.symm, by simp, .inl hs⟩)⟩
      · exact ⟨h.2.symm, .inr (.inr ⟨rfl, h.1.symm, by simpa using hs⟩)⟩
  · rcases hc : p.current with _ | c <;> simp only [hc] at h
    · cases h; exact ⟨rfl, .inl ⟨t, by simp [acceptedCandidate, hf, hc], rfl⟩⟩
    · rcases hp : p.shouldPreemptForFair c t with e | _ | _ <;> simp only [hp] at h <;> cases h
      · exact ⟨rfl, .inr (.inl ⟨c, rfl, rfl, by simp [acceptedCandidate, hf, hc, hp], .inr ⟨t, rfl, hp⟩⟩)⟩
      · exact ⟨rfl, .inl ⟨t, by simp [acceptedCandidate, hf, hc, hp], rfl⟩⟩

/-- The stop branch: its candidate wins outright, with nothing counted. -/
theorem makeSchedulingDecision_cases (h : makeSchedulingDecision p st = .ok (r, st')) :
    (∃ t, stopCandidate p = some t ∧ r = .switchTo t.id ∧ st' = st) ∨
    (stopCandidate p = none ∧ preemptingClass p.rt p.shouldPreemptForRt p.current st
      (preemptingClass p.deadline p.shouldPreemptForDeadline p.current st (fairClass p st)) = .ok (r, st')) := by
  unfold makeSchedulingDecision at h
  rcases hs : p.stop with e | _ | t <;> simp only [hs, bind, Except.bind, pure, Except.pure] at h
  · cases h
  · exact .inr ⟨by simp [stopCandidate, hs], h⟩
  · cases h; exact .inl ⟨t, by simp [stopCandidate, hs], rfl, rfl⟩

end Branches

/-! ## The decision -/

section Decision

variable {p : Pickers} {st st' : SchedulerStats} {r : ScheduleResult}

/-- **What a decision can be**: a switch to the first accepted candidate, counting a preemption or not; or, with no
accepted candidate and nothing counted, keeping the current task (running, or with the fair candidate declined),
or going idle (no fair candidate, and no running current task). -/
theorem makeSchedulingDecision_ok (h : makeSchedulingDecision p st = .ok (r, st')) :
    (∃ t, firstAccepted p = some t ∧ r = .switchTo t.id ∧ (st' = st ∨ st' = st.countPreemption)) ∨
    (firstAccepted p = none ∧ st' = st ∧
      ((∃ c, p.current = some c ∧ r = .keepCurrent ∧
          (c.state = .running ∨ ∃ f, p.fair = .ok (some f) ∧ p.shouldPreemptForFair c f = .ok false)) ∨
        (p.fair = .ok none ∧ r = .goIdle ∧ ∀ c, p.current = some c → c.state ≠ .running))) := by
  rcases makeSchedulingDecision_cases h with ⟨t, ht, hr, hs⟩ | ⟨hs, h⟩
  · exact .inl ⟨t, by simp [firstAccepted, ht], hr, .inl hs⟩
  rcases preemptingClass_ok h with ⟨t, ht, hr, hst⟩ | ⟨hrt, h⟩
  · exact .inl ⟨t, by simp [firstAccepted, hs, ht], hr, hst⟩
  rcases preemptingClass_ok h with ⟨t, ht, hr, hst⟩ | ⟨hdl, h⟩
  · exact .inl ⟨t, by simp [firstAccepted, hs, hrt, ht], hr, hst⟩
  obtain ⟨hst, ⟨t, ht, hr⟩ | ⟨c, hc, hr, hf, hk⟩ | ⟨hf, hr, hc⟩⟩ := fairClass_ok h
  · exact .inl ⟨t, by simp [firstAccepted, hs, hrt, hdl, ht], hr, .inl hst⟩
  · exact .inr ⟨by simp [firstAccepted, hs, hrt, hdl, hf], hst, .inl ⟨c, hc, hr, hk⟩⟩
  · exact .inr ⟨by simp [firstAccepted, hs, hrt, hdl, hf], hst, .inr ⟨hf, hr, hc⟩⟩

/-- **A switch goes to the first accepted candidate**, in the order stop, real-time, deadline, fair. -/
theorem makeSchedulingDecision_switchTo {t : TaskId}
    (h : makeSchedulingDecision p st = .ok (.switchTo t, st')) : (firstAccepted p).map Task.id = some t := by
  rcases makeSchedulingDecision_ok h with ⟨u, hu, hr, -⟩ | ⟨-, -, ⟨_, -, hr, -⟩ | ⟨-, hr, -⟩⟩ <;> cases hr
  simp [hu]

/-- Collaborators that offer the given candidates and decline every preemption. -/
def declining (current rt deadline fair : Option Task) : Pickers where
  current := current
  stop := .ok none
  rt := .ok rt
  deadline := .ok deadline
  fair := .ok fair
  shouldPreemptForRt _ _ := .ok false
  shouldPreemptForDeadline _ _ := .ok false
  shouldPreemptForFair _ _ := .ok false

/-- With no current task, a real-time candidate is taken over a deadline candidate. -/
example : makeSchedulingDecision (declining none (some ⟨1, .runnable⟩) (some ⟨2, .runnable⟩) none) {} =
    .ok (.switchTo 1, {}) := rfl

/-- A real-time candidate that its check declines does not keep the current task: the decision falls through to
the deadline candidate its check accepts, counting a preemption, or, with no deadline candidate, to the fair
candidate its check accepts. -/
theorem declined_candidate_falls_through :
    makeSchedulingDecision
        { declining (some ⟨0, .running⟩) (some ⟨1, .runnable⟩) (some ⟨2, .runnable⟩) none with
          shouldPreemptForDeadline := fun _ _ => .ok true } {} =
      .ok (.switchTo 2, { preemptions := 1 }) ∧
    makeSchedulingDecision
        { declining (some ⟨0, .running⟩) (some ⟨1, .runnable⟩) none (some ⟨3, .runnable⟩) with
          shouldPreemptForFair := fun _ _ => .ok true } {} =
      .ok (.switchTo 3, {}) :=
  ⟨rfl, rfl⟩

/-- The CPU idles only when no class has an accepted candidate, the fair class offers none, and the current task,
if any, is not running. -/
theorem makeSchedulingDecision_goIdle (h : makeSchedulingDecision p st = .ok (.goIdle, st')) :
    firstAccepted p = none ∧ p.fair = .ok none ∧ ∀ c, p.current = some c → c.state ≠ .running := by
  rcases makeSchedulingDecision_ok h with ⟨_, -, hr, -⟩ | ⟨hn, -, ⟨_, -, hr, -⟩ | ⟨hf, -, hc⟩⟩
  · cases hr
  · cases hr
  · exact ⟨hn, hf, hc⟩

/-- The current task is kept when it is running, or when the fair class's check declines its candidate. -/
theorem makeSchedulingDecision_keepCurrent (h : makeSchedulingDecision p st = .ok (.keepCurrent, st')) :
    ∃ c, p.current = some c ∧
      (c.state = .running ∨ ∃ f, p.fair = .ok (some f) ∧ p.shouldPreemptForFair c f = .ok false) := by
  rcases makeSchedulingDecision_ok h with ⟨_, -, hr, -⟩ | ⟨-, -, ⟨c, hc, -, hk⟩ | ⟨-, hr, -⟩⟩
  · cases hr
  · exact ⟨c, hc, hk⟩
  · cases hr

/-- A blocked current task is kept when the fair check declines, and the CPU idles past a declined real-time
candidate. -/
theorem blocked_current_kept_or_idled :
    makeSchedulingDecision (declining (some ⟨0, .blocked⟩) none none (some ⟨1, .runnable⟩)) {} =
      .ok (.keepCurrent, {}) ∧
    makeSchedulingDecision (declining (some ⟨0, .blocked⟩) (some ⟨1, .runnable⟩) none none) {} =
      .ok (.goIdle, {}) :=
  ⟨rfl, rfl⟩

/-- The decision never asks for an immediate reschedule. -/
theorem makeSchedulingDecision_ne_rescheduleImmediate :
    makeSchedulingDecision p st ≠ .ok (.rescheduleImmediate, st') := fun h => by
  rcases makeSchedulingDecision_ok h with ⟨_, -, hr, -⟩ | ⟨-, -, ⟨_, -, hr, -⟩ | ⟨-, hr, -⟩⟩ <;> cases hr

/-- The decision counts at most one preemption, and only together with a switch. -/
theorem makeSchedulingDecision_stats (h : makeSchedulingDecision p st = .ok (r, st')) :
    st' = st ∨ (st' = st.countPreemption ∧ ∃ t, r = .switchTo t) := by
  rcases makeSchedulingDecision_ok h with ⟨u, -, hr, hs⟩ | ⟨-, hs, -⟩
  · exact hs.imp_right fun hs => ⟨hs, u.id, hr⟩
  · exact .inl hs

end Decision

end LightKernel.Core
