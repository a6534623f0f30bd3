import ProxyLauncher.Proofs.Config.FlagLayer
import ProxyLauncher.Proofs.Config.Layers

/-!
# Resolving a resolved configuration

A resolved configuration remembers by its tags which layer gave each setting.
When it is resolved again, the new flags win over everything that was there, and
the new environment is asked only for what nothing has given yet.

So the second resolution has the outcome of laying both command lines over the
defaults first, and then both environments as one, in which the earlier
environment counts.  This includes the failures: a variable that was read before
is not read again, and it could be read.
-/

namespace ProxyLauncher

/-- Two environments as one.  Where both set a variable, the first one counts. -/
def Environment.union (first second : Environment) : Environment :=
  fun name => (first name).or (second name)

theorem Environment.union_self (environment : Environment) :
    environment.union environment = environment := by
  funext name
  exact Option.or_self

namespace Config

open CommandLine

/-- Lays two command lines over defaults, one after the other, and then an environment. -/
def layered (defaults : Config) (first second : List String) (environment : Environment) :
    Except ResolveFault Config := do
  let flagged ← (defaults.withFlags first).mapError .flags
  let reflagged ← (flagged.withFlags second).mapError .flags
  (reflagged.withEnvironment environment).mapError .environment

/-! ## Texts of two environments -/

section Texts

variable (flagged : Config) (assignments : List Assignment) (earlier later : Environment)

/-- The texts that are left for the later environment when the earlier one has
been laid over the configuration, and further flags on top. -/
def remainingText : Setting → Option String :=
  ((flagged.overlay .environment (givenBy (flagged.variableText earlier))).overlay .flag
    assignments).variableText later

/-- The texts of both environments under the same further flags. -/
def jointText : Setting → Option String :=
  (flagged.overlay .flag assignments).variableText (earlier.union later)

theorem remainingText_eq (setting : Setting) :
    remainingText flagged assignments earlier later setting =
      if (lastFor? assignments setting).isSome then none
      else if (givenAt? (flagged.variableText earlier) setting).isSome then none
      else flagged.variableText later setting := by
  rw [remainingText, variableText_overlay (by decide), variableText_overlay (by decide),
    lastFor?_givenBy]

theorem variableText_union (setting : Setting) :
    flagged.variableText (earlier.union later) setting =
      (flagged.variableText earlier setting).or (flagged.variableText later setting) := by
  unfold variableText Environment.union
  split <;> rfl

theorem jointText_eq (setting : Setting) :
    jointText flagged assignments earlier later setting =
      if (lastFor? assignments setting).isSome then none
      else (flagged.variableText earlier setting).or (flagged.variableText later setting) := by
  rw [jointText, variableText_overlay (by decide), variableText_union]

variable {flagged earlier}

/-- At a setting, either both ways read the same text, or only the joint
environment has one, which is the earlier environment's. -/
theorem jointText_cases {setting : Setting}
    (sound : faultAt? (flagged.variableText earlier) setting = none) :
    (jointText flagged assignments earlier later setting =
        remainingText flagged assignments earlier later setting ∧
      (lastFor? assignments setting = none →
        givenAt? (flagged.variableText earlier) setting = none)) ∨
    (jointText flagged assignments earlier later setting = flagged.variableText earlier setting ∧
      remainingText flagged assignments earlier later setting = none ∧
      lastFor? assignments setting = none) := by
  rw [remainingText_eq, jointText_eq]
  cases last : lastFor? assignments setting with
  | some assignment => exact .inl ⟨rfl, nofun⟩
  | none =>
      cases present : flagged.variableText earlier setting with
      | none =>
          rw [givenAt?_of_absent present]
          exact .inl ⟨rfl, fun _ => rfl⟩
      | some text =>
          rcases exists_givenAt? present sound with ⟨assignment, reads⟩
          rw [givenAt?_eq_some_iff.mpr ⟨text, present, reads⟩]
          exact .inr ⟨rfl, rfl, rfl⟩

variable (sound : ∀ setting, faultAt? (flagged.variableText earlier) setting = none)
include sound

/-- Both ways meet the same faults. -/
theorem faultAt?_jointText (setting : Setting) :
    faultAt? (jointText flagged assignments earlier later) setting =
      faultAt? (remainingText flagged assignments earlier later) setting := by
  rcases jointText_cases assignments later (sound setting) with
    ⟨jointEq, _⟩ | ⟨jointEq, remainingEq, _⟩
  · exact faultAt?_congr jointEq
  · rw [faultAt?_congr jointEq, sound setting, faultAt?_of_absent remainingEq]

/-- Both ways lead to the same configuration. -/
theorem overlay_jointText :
    (flagged.overlay .flag assignments).overlay .environment
        (givenBy (jointText flagged assignments earlier later)) =
      ((flagged.overlay .environment (givenBy (flagged.variableText earlier))).overlay .flag
        assignments).overlay .environment
          (givenBy (remainingText flagged assignments earlier later)) := by
  apply eq_of_valueOf?
  · intro setting
    simp only [valueOf?_overlay, lastFor?_givenBy]
    rcases jointText_cases assignments later (sound setting) with
      ⟨jointEq, silent⟩ | ⟨jointEq, remainingEq, last⟩
    · rw [givenAt?_congr jointEq]
      cases last : lastFor? assignments setting with
      | none => simp [silent last]
      | some assignment => rfl
    · rw [givenAt?_congr jointEq, givenAt?_of_absent remainingEq, last]
      rfl
  · intro setting
    simp only [tag_overlay, lastFor?_givenBy]
    rcases jointText_cases assignments later (sound setting) with
      ⟨jointEq, silent⟩ | ⟨jointEq, remainingEq, last⟩
    · rw [givenAt?_congr jointEq]
      cases last : lastFor? assignments setting with
      | none => simp [silent last]
      | some assignment => rfl
    · rw [givenAt?_congr jointEq, givenAt?_of_absent remainingEq, last]
      rfl
  · simp only [foreign_overlay]

end Texts

/-! ## Outcomes -/

/-- Laying the later environment over the earlier one, with flags in between, is
laying both as one over the flags. -/
theorem withEnvironment_union (flagged : Config) (assignments : List Assignment)
    {earlier : Environment} (later : Environment)
    (sound : firstFault? (flagged.variableText earlier) = none) :
    ((flagged.overlay .environment (givenBy (flagged.variableText earlier))).overlay .flag
        assignments).withEnvironment later =
      (flagged.overlay .flag assignments).withEnvironment (earlier.union later) := by
  have soundAt := firstFault?_eq_none_iff.mp sound
  have faultEq : firstFault? (jointText flagged assignments earlier later) =
      firstFault? (remainingText flagged assignments earlier later) := by
    unfold firstFault?
    rw [funext (faultAt?_jointText assignments later soundAt)]
  rw [withEnvironment_eq, withEnvironment_eq, ← remainingText, ← jointText, faultEq,
    overlay_jointText assignments later soundAt]

theorem resolve_eq_layered {defaults config : Config} {arguments : List String}
    {environment : Environment} (resolved : defaults.resolve arguments environment = .ok config)
    (laterArguments : List String) (laterEnvironment : Environment) :
    config.resolve laterArguments laterEnvironment =
      defaults.layered arguments laterArguments (environment.union laterEnvironment) := by
  rcases resolve_eq_ok_iff.mp resolved with ⟨flagged, laid, sound, rfl⟩
  rw [layered, resolve_eq_bind, laid, mapError_ok, ok_bind]
  unfold withFlags
  cases read laterArguments with
  | error stop => rfl
  | ok assignments => simp [withEnvironment_union flagged assignments laterEnvironment sound]

/-- Resolving a resolved configuration has the outcome of laying all flags and
then both environments over the first defaults.  Doing the same twice changes
nothing. -/
theorem resolve_resolve {defaults config : Config} {arguments : List String}
    {environment : Environment} (resolved : defaults.resolve arguments environment = .ok config) :
    (∀ (laterArguments : List String) (laterEnvironment : Environment),
      config.resolve laterArguments laterEnvironment =
        defaults.layered arguments laterArguments (environment.union laterEnvironment)) ∧
      config.resolve arguments environment = .ok config := by
  refine ⟨resolve_eq_layered resolved, ?_⟩
  rcases resolve_eq_ok_iff.mp resolved with ⟨flagged, laid, _, _⟩
  rcases withFlags_eq_ok_iff.mp laid with ⟨assignments, split, rfl⟩
  have again : (defaults.overlay .flag assignments).withFlags arguments =
      .ok (defaults.overlay .flag assignments) :=
    withFlags_eq_ok_iff.mpr ⟨assignments, split, (overlay_overlay_self _ _ _).symm⟩
  rw [resolve_eq_layered resolved, layered, laid, mapError_ok, ok_bind, again, mapError_ok,
    ok_bind, Environment.union_self]
  rw [resolve_eq_bind, laid, mapError_ok, ok_bind] at resolved
  exact resolved

/-- A port that was read is kept, and one that cannot be read is no longer looked at. -/
theorem resolve_resolve_port :
    ∃ config,
      Config.default.resolve [] (Environment.ofList [("TESLA_HTTP_PROXY_PORT", "1")]) =
        .ok config ∧
      config.resolve ["-verbose"] (Environment.ofList [("TESLA_HTTP_PROXY_PORT", "x")]) =
        Config.default.layered [] ["-verbose"]
          ((Environment.ofList [("TESLA_HTTP_PROXY_PORT", "1")]).union
            (Environment.ofList [("TESLA_HTTP_PROXY_PORT", "x")])) :=
  ⟨_, rfl, (resolve_resolve rfl).1 _ _⟩

end Config

end ProxyLauncher
