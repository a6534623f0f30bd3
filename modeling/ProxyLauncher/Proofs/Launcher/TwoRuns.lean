import ProxyLauncher.Proofs.Launcher.Course

/-!
# Two runs side by side

A run ends with an activity that takes no notice of what the launcher holds: it
either stops the launcher with a status, or fails and leaves it as it is.  So two
runs that come to the same last activity end in the same way, and how they
compare is decided by the courses that have led them there.
-/

namespace ProxyLauncher

variable {κ η α : Type}

/-! ## The log during a run -/

/-- The record of an entry, whoever has logged it. -/
def Entry.record? : Entry κ η → Option Log.Record
  | .record logged => some logged
  | .effect (.record logged) => some logged
  | _ => none

namespace Journal

/-- All records of a journal, shown or not. -/
def records (journal : Journal κ η) : List Log.Record :=
  journal.filterMap Entry.record?

@[simp]
theorem records_append (first second : Journal κ η) :
    records (first ++ second) = records first ++ records second :=
  List.filterMap_append

/-- No entry configures the log. -/
def KeepsLog (journal : Journal κ η) : Prop :=
  ∀ entry ∈ journal, ∀ setup, setupAfter setup entry = setup

theorem KeepsLog.append {first second : Journal κ η} (firstKeeps : first.KeepsLog)
    (secondKeeps : second.KeepsLog) : KeepsLog (first ++ second) := by
  intro entry member
  rcases List.mem_append.mp member with early | late
  · exact firstKeeps entry early
  · exact secondKeeps entry late

theorem keepsLog_asking (demand : Demand κ η) (reply : Reply α) :
    KeepsLog (Activity.asking demand reply) := by
  intro entry member setup
  rcases List.mem_cons.mp member with rfl | effect
  · rfl
  · obtain ⟨effect, _, rfl⟩ := List.mem_map.mp effect
    rfl

end Journal

namespace Startup

open Activity

/-! ## Last activities -/

/-- An activity that ends a run in the same way whatever the launcher holds. -/
inductive Terminal (activity : Activity κ η Nat) : Prop
  | stops (status : Nat) {closing : Journal κ η} (keeps : closing.KeepsLog)
      (does : ∀ launcher, activity launcher = ⟨launcher.stopped status, closing, .ok status⟩)
  | escapes (failure : Failure)
      (does : ∀ launcher, activity launcher = ⟨launcher, [], .error failure⟩)

theorem terminal_dealWith (step : Step) (failure : Failure) :
    Terminal (dealWith step failure : Activity κ η Nat) := by
  cases expected : step.expected? failure with
  | none =>
      rw [dealWith_of_unexpected expected]
      exact .escapes failure fun _ => rfl
  | some message =>
      rw [dealWith_of_expected expected]
      refine .stops 1 ?_ (giveUp_apply step message)
      cases step.logged? message <;> simp [Journal.KeepsLog, recording, Journal.setupAfter]

theorem terminal_conclude (ending : Except Failure Unit) :
    Terminal (conclude ending : Activity κ η Nat) := by
  rcases ending_cases ending with rfl | rfl | ⟨message, rfl⟩ | ⟨failure, rfl, foreign⟩
  · refine .stops 0 ?_ conclude_returned
    simp [Journal.KeepsLog, recording, Journal.setupAfter]
  · refine .stops 130 ?_ conclude_interrupted
    simp [Journal.KeepsLog, recording, Journal.setupAfter]
  · refine .stops 1 ?_ fun launcher => conclude_refused launcher message
    simp [Journal.KeepsLog, recording, Journal.setupAfter]
  · exact .escapes failure fun launcher => conclude_foreign launcher foreign

theorem Course.terminal {collaborators : Collaborators κ η} {launch : Launch}
    {start reached : Launcher κ η} {journal : Journal κ η} {last : Activity κ η Nat}
    (course : Course collaborators launch start reached journal last) : Terminal last := by
  cases course with
  | unresolved => exact terminal_dealWith _ _
  | refused => exact terminal_dealWith _ _
  | keyless => exact terminal_dealWith _ _
  | handlerless => exact terminal_dealWith _ _
  | served => exact terminal_conclude _

/-! ## Two courses with one end -/

/-- How two outcomes compare to what led to them: the same entries were added, with the same result,
and both launchers were stopped with the same status or left as they were. -/
inductive EndAlike (reached twin : Launcher κ η) (journal twinJournal : Journal κ η) :
    Outcome κ η Nat → Outcome κ η Nat → Prop
  | stopped (status : Nat) {closing : Journal κ η} (keeps : closing.KeepsLog) :
      EndAlike reached twin journal twinJournal
        ⟨reached.stopped status, journal ++ closing, .ok status⟩
        ⟨twin.stopped status, twinJournal ++ closing, .ok status⟩
  | left (failure : Failure) :
      EndAlike reached twin journal twinJournal
        ⟨reached, journal, .error failure⟩ ⟨twin, twinJournal, .error failure⟩

/-- Two runs that come to the same last activity end alike. -/
theorem endAlike_of_courses {collaborators others : Collaborators κ η} {launch other : Launch}
    {start otherStart reached twin : Launcher κ η} {journal twinJournal : Journal κ η}
    {last : Activity κ η Nat} (course : Course collaborators launch start reached journal last)
    (twinCourse : Course others other otherStart twin twinJournal last) :
    EndAlike reached twin journal twinJournal (run collaborators launch start)
      (run others other otherStart) := by
  rw [run_of_course course, run_of_course twinCourse]
  cases course.terminal with
  | stops status keeps does =>
      rw [does, does]
      exact .stopped status keeps
  | escapes failure does =>
      rw [does, does, Outcome.after_mk, Outcome.after_mk, List.append_nil, List.append_nil]
      exact .left failure

end Startup

end ProxyLauncher
