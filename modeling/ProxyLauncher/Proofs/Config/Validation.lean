import ProxyLauncher.Config.Basic

/-!
# Configurations that can be listened with

Validation accepts a configuration exactly when its port is a port and its
timeout is not below zero.  Both have to have a value for that.
-/

namespace ProxyLauncher.Config

open Number

theorem portInRange_iff {port : Int} : portInRange port = true ↔ 0 ≤ port ∧ port ≤ 65535 := by
  rw [portInRange, Bool.and_eq_true, decide_eq_true_iff, decide_eq_true_iff, greatestPort]

theorem validate_eq_ok_iff {config : Config} :
    config.validate = .ok () ↔
      (∃ port, config.port = .given port ∧ 0 ≤ port ∧ port ≤ 65535) ∧
        ∃ timeout, config.timeout = .given timeout ∧ timeout.less (.zeroOf false) = false := by
  unfold validate
  cases config.port with
  | dropped => simp
  | given port =>
      by_cases inRange : portInRange port = true
      · cases config.timeout with
        | dropped => simp [inRange]
        | given timeout =>
            cases below : timeout.less (.zeroOf false) <;>
              simp [inRange, portInRange_iff.mp inRange, timeoutIsNegative, below]
      · have outside : ¬ (0 ≤ port ∧ port ≤ 65535) := fun within =>
          inRange (portInRange_iff.mpr within)
        simp [inRange, outside]

end ProxyLauncher.Config
