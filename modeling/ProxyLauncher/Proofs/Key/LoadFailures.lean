import ProxyLauncher.Proofs.Key.Loading

/-!
# Keys that do not load

Loading a key can fail in three ways.  A path with a zero byte reaches no
system, and an algorithm or a curve that is not known cannot be dealt with; both
are failures of their own.  Whatever else keeps a key from loading is a failure
of the credential.

How files are read and decoded is left open.  It is only asked that paths with
zero bytes, and no others, are turned down as such.
-/

namespace ProxyLauncher

/-- A path is turned down for a zero byte exactly when it has one. -/
def RejectsZeroBytes (read : String → Except FileTree.Fault Bytes) : Prop :=
  ∀ path, read path = .error .zeroByte ↔ '\x00' ∈ path.toList

namespace FileTree

/-- No walk is turned down for a zero byte. -/
theorem walk_ne_zeroByte (tree : FileTree) (place : Place) (names : List String) :
    tree.walk place names ≠ .error .zeroByte := by
  fun_induction walk tree place names with
  | case1 => simp
  | case2 _ _ _ _ ih => exact ih
  | case3 _ _ _ ih => exact ih
  | case4 => simp
  | case5 => simp
  | case6 => simp
  | case7 _ _ _ _ _ _ _ ih => exact ih
  | case8 => simp
  | case9 => simp

theorem rejectsZeroBytes (tree : FileTree) : RejectsZeroBytes tree.read := by
  intro path
  unfold read
  by_cases zero : '\x00' ∈ path.toList
  · simp [zero]
  · have passes : ¬ path.toList.contains '\x00' = true := by simpa using zero
    rw [if_neg passes]
    constructor
    · intro rejected
      split at rejected
      case isTrue => cases rejected
      case isFalse =>
        split at rejected
        · split at rejected
          · cases rejected
          · exact absurd rejected (walk_ne_zeroByte _ _ _)
        · exact absurd rejected (walk_ne_zeroByte _ _ _)
    · intro found
      exact absurd found zero

end FileTree

variable {files : Key.Files} {configured : Option (Operand String)}

namespace Key

/-- The path of the configured file has a zero byte. -/
def HasZeroByte (configured : Option (Operand String)) : Prop :=
  ∃ path, configured = some (.given path) ∧ '\x00' ∈ path.toList

/-- The configured file is there and names an algorithm or a curve that is not supported. -/
inductive Unsupported (files : Files) : Option (Operand String) → Prop
  | intro {path : String} {contents : Bytes} (named : path ≠ "")
      (opens : files.read path = .ok contents)
      (decodes : files.decode contents = .error .unsupported) :
      Unsupported files (some (.given path))

/-! ## Failures of the loader -/

theorem LoadFault.toFailure_eq_value_iff {fault : LoadFault} {message : String} :
    fault.toFailure = .value message ↔
      (∃ path, fault = .unreadable path .zeroByte) ∧ message = "embedded null byte" := by
  cases fault with
  | unreadable path cause => cases cause <;> simp [toFailure, FileTree.Fault.message, eq_comm]
  | unusable path cause => cases cause <;> simp [toFailure]
  | _ => simp [toFailure]

theorem LoadFault.toFailure_eq_unsupported_iff {fault : LoadFault} :
    fault.toFailure = .unsupportedAlgorithm ↔ ∃ path, fault = .unusable path .unsupported := by
  cases fault with
  | unreadable path cause => cases cause <;> simp [toFailure]
  | unusable path cause => cases cause <;> simp [toFailure]
  | _ => simp [toFailure]

/-- The failures of a loader are of three kinds. -/
theorem LoadFault.toFailure_cases (fault : LoadFault) :
    (∃ message, fault.toFailure = .credential message) ∨
      (∃ message, fault.toFailure = .value message) ∨ fault.toFailure = .unsupportedAlgorithm := by
  cases fault with
  | unreadable path cause => cases cause <;> simp [toFailure]
  | unusable path cause => cases cause <;> simp [toFailure]
  | _ => simp [toFailure]

section Path

variable {path named : String}

/-- A key that is read is refused for its kind or for its curve. -/
theorem requireCommandKey_eq_error_iff {material : Material} {fault : LoadFault} :
    requireCommandKey path material = .error fault ↔
      material = .foreign ∧ fault = .foreign path ∨
        ∃ curve scalar, material = .elliptic curve scalar ∧ curve ≠ .secp256r1 ∧
          fault = .otherCurve path curve := by
  cases material with
  | foreign => simp [requireCommandKey, eq_comm]
  | elliptic curve scalar =>
      by_cases onCurve : curve = .secp256r1
      · subst onCurve
        simp [requireCommandKey, commandCurve]
      · simp [requireCommandKey, commandCurve, onCurve, eq_comm]

theorem loadFrom_eq_unreadable_iff {cause : FileTree.Fault} :
    loadFrom files path = .error (.unreadable named cause) ↔
      named = path ∧ files.read path = .error cause := by
  simp only [loadFrom, bind_eq_error_iff, mapError_eq_error_iff, requireCommandKey_eq_error_iff,
    and_false, exists_false, or_false, reduceCtorEq, LoadFault.unreadable.injEq]
  constructor
  · rintro ⟨_, fails, rfl, rfl⟩
    exact ⟨rfl, fails⟩
  · rintro ⟨rfl, fails⟩
    exact ⟨_, fails, rfl, rfl⟩

theorem loadFrom_eq_unusable_iff {cause : Fault} :
    loadFrom files path = .error (.unusable named cause) ↔
      named = path ∧ ∃ contents, files.read path = .ok contents ∧
        files.decode contents = .error cause := by
  simp only [loadFrom, bind_eq_error_iff, mapError_eq_error_iff, mapError_eq_ok_iff,
    requireCommandKey_eq_error_iff, and_false, exists_false, or_false, false_or, reduceCtorEq,
    LoadFault.unusable.injEq]
  constructor
  · rintro ⟨contents, opens, _, fails, rfl, rfl⟩
    exact ⟨rfl, contents, opens, fails⟩
  · rintro ⟨rfl, contents, opens, fails⟩
    exact ⟨contents, opens, _, fails, rfl, rfl⟩

end Path

end Key

namespace Standard

open Key

theorem loadKey_eq_error_iff {failure : Failure} :
    (loadKey files configured).result = .error failure ↔
      configuredPath? configured = none ∧ failure = LoadFault.noPath.toFailure ∨
        ∃ path fault, configuredPath? configured = some path ∧
          loadFrom files path = .error fault ∧ failure = fault.toFailure := by
  unfold loadKey
  cases configuredPath? configured with
  | none => simp [Reply.failed, eq_comm]
  | some path => cases found : loadFrom files path <;> simp [found, Reply.failed, eq_comm]

/-- The conversion of a path fails exactly when the path has a zero byte. -/
theorem loadKey_eq_value_iff (rejects : RejectsZeroBytes files.read) {message : String} :
    (loadKey files configured).result = .error (.value message) ↔
      HasZeroByte configured ∧ message = "embedded null byte" := by
  rw [loadKey_eq_error_iff]
  constructor
  · rintro (⟨_, failed⟩ | ⟨path, fault, named, failed, isValue⟩)
    · cases failed
    · rcases LoadFault.toFailure_eq_value_iff.mp isValue.symm with ⟨⟨_, rfl⟩, messageEq⟩
      rcases loadFrom_eq_unreadable_iff.mp failed with ⟨_, rejected⟩
      rcases configuredPath?_eq_some_iff.mp named with ⟨given, _⟩
      exact ⟨⟨path, given, (rejects path).mp rejected⟩, messageEq⟩
  · rintro ⟨⟨path, rfl, zero⟩, rfl⟩
    have named : path ≠ "" := by
      rintro rfl
      cases zero
    refine .inr ⟨path, .unreadable path .zeroByte, ?_, ?_, rfl⟩
    · exact configuredPath?_eq_some_iff.mpr ⟨rfl, named⟩
    · exact loadFrom_eq_unreadable_iff.mpr ⟨rfl, (rejects path).mpr zero⟩

theorem loadKey_eq_unsupported_iff :
    (loadKey files configured).result = .error .unsupportedAlgorithm ↔
      Unsupported files configured := by
  rw [loadKey_eq_error_iff]
  constructor
  · rintro (⟨_, failed⟩ | ⟨path, fault, named, failed, isUnsupported⟩)
    · cases failed
    · rcases LoadFault.toFailure_eq_unsupported_iff.mp isUnsupported.symm with ⟨_, rfl⟩
      rcases loadFrom_eq_unusable_iff.mp failed with ⟨_, contents, opens, decodes⟩
      rcases configuredPath?_eq_some_iff.mp named with ⟨rfl, nonempty⟩
      exact .intro nonempty opens decodes
  · rintro ⟨nonempty, opens, decodes⟩
    exact .inr ⟨_, _, configuredPath?_eq_some_iff.mpr ⟨rfl, nonempty⟩,
      loadFrom_eq_unusable_iff.mpr ⟨rfl, _, opens, decodes⟩, rfl⟩

theorem loadKey_cases (files : Files) (configured : Option (Operand String)) :
    (∃ key, (loadKey files configured).result = .ok key) ∨
      (∃ message, (loadKey files configured).result = .error (.credential message)) ∨
      (∃ message, (loadKey files configured).result = .error (.value message)) ∨
      (loadKey files configured).result = .error .unsupportedAlgorithm := by
  cases loaded : (loadKey files configured).result with
  | ok key => exact .inl ⟨key, rfl⟩
  | error failure =>
      rcases loadKey_eq_error_iff.mp loaded with ⟨_, rfl⟩ | ⟨path, fault, _, _, rfl⟩
      · exact .inr (.inl ⟨_, rfl⟩)
      · rcases fault.toFailure_cases with ⟨message, isCredential⟩ | ⟨message, isValue⟩ | unsupported
        · exact .inr (.inl ⟨message, by rw [isCredential]⟩)
        · exact .inr (.inr (.inl ⟨message, by rw [isValue]⟩))
        · exact .inr (.inr (.inr (by rw [unsupported])))

end Standard

namespace Key

/-- Loading the key of a configured file gives a key or fails as a matter of the credential. -/
def Exhaustive (files : Files) (configured : Option (Operand String)) : Prop :=
  (∃ key, (Standard.loadKey files configured).result = .ok key) ∨
    ∃ message, (Standard.loadKey files configured).result = .error (.credential message)

/-- What comes of loading the key of a configured file. -/
structure LoadLaw (files : Files) (configured : Option (Operand String)) : Prop where
  /-- A key loads exactly when the configured file holds one, and it is that one. -/
  loaded : ∀ key, (Standard.loadKey files configured).result = .ok key ↔
    ∃ scalar, Holds files configured scalar ∧ key = some (.elliptic .secp256r1 scalar)
  /-- There are two ways in which loading is not exhaustive. -/
  exhaustive : Exhaustive files configured ↔
    ¬ HasZeroByte configured ∧ ¬ Unsupported files configured
  /-- A zero byte in the path is a failure of its own. -/
  zeroByte : ∀ message, (Standard.loadKey files configured).result = .error (.value message) ↔
    HasZeroByte configured ∧ message = "embedded null byte"
  /-- So is an algorithm or a curve that is not supported. -/
  unsupported : (Standard.loadKey files configured).result = .error .unsupportedAlgorithm ↔
    Unsupported files configured
  /-- In every other case the credential fails. -/
  refused : (∃ message, (Standard.loadKey files configured).result = .error (.credential message)) ↔
    (∀ scalar, ¬ Holds files configured scalar) ∧ ¬ HasZeroByte configured ∧
      ¬ Unsupported files configured

theorem exhaustive_iff (rejects : RejectsZeroBytes files.read) :
    Exhaustive files configured ↔ ¬ HasZeroByte configured ∧ ¬ Unsupported files configured := by
  have zeroByte : HasZeroByte configured ↔
      ∃ message, (Standard.loadKey files configured).result = .error (.value message) := by
    simp [Standard.loadKey_eq_value_iff rejects]
  rw [zeroByte, ← Standard.loadKey_eq_unsupported_iff, Exhaustive]
  rcases Standard.loadKey_cases files configured with ⟨_, found⟩ | ⟨_, found⟩ | ⟨_, found⟩ | found
  all_goals simp [found]

theorem refused_iff (rejects : RejectsZeroBytes files.read) :
    (∃ message, (Standard.loadKey files configured).result = .error (.credential message)) ↔
      (∀ scalar, ¬ Holds files configured scalar) ∧ ¬ HasZeroByte configured ∧
        ¬ Unsupported files configured := by
  have holds : (∃ scalar, Holds files configured scalar) ↔
      ∃ key, (Standard.loadKey files configured).result = .ok key := by
    simp only [Standard.loadKey_eq_ok_iff]
    constructor
    · rintro ⟨scalar, holds⟩
      exact ⟨_, scalar, holds, rfl⟩
    · rintro ⟨_, scalar, holds, _⟩
      exact ⟨scalar, holds⟩
  rw [← exhaustive_iff rejects, ← not_exists, holds, Exhaustive]
  rcases Standard.loadKey_cases files configured with ⟨_, found⟩ | ⟨_, found⟩ | ⟨_, found⟩ | found
  all_goals simp [found]

theorem loadLaw (rejects : RejectsZeroBytes files.read) (configured : Option (Operand String)) :
    LoadLaw files configured := by
  constructor
  case loaded => exact fun key => Standard.loadKey_eq_ok_iff
  case exhaustive => exact exhaustive_iff rejects
  case zeroByte => exact fun message => Standard.loadKey_eq_value_iff rejects
  case unsupported => exact Standard.loadKey_eq_unsupported_iff
  case refused => exact refused_iff rejects

end Key

end ProxyLauncher
