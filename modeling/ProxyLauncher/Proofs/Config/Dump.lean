import ProxyLauncher.Config.Dump
import ProxyLauncher.Proofs.Config.Usability
import ProxyLauncher.Proofs.Number.ReadBack
import ProxyLauncher.Proofs.Text.Cut
import ProxyLauncher.Proofs.Text.Quoted

/-!
# What a shown configuration tells

The line of a setting ends with its source, which has no space, so the value
ends at the last space whatever stands in it.  The values of a setting are shown
apart from each other: a quoted text begins with a quotation mark, which neither
a missing key file nor a dropped operand does, and numbers have characters of
their own.  So the lines of a configuration tell everything about its settings.

All of it is printable.  The one thing that this needs of a configuration is
that its timeout is in range.
-/

namespace ProxyLauncher

open Number Text

/-! ## Printable text -/

/-- Every character of the text is printable. -/
def Printable (text : String) : Prop :=
  ∀ character ∈ text.toList, isPrintable character = true

instance : DecidablePred Printable :=
  fun text => decidable_of_iff (text.toList.all isPrintable = true) List.all_eq_true

theorem printable_append {first second : String} :
    Printable (first ++ second) ↔ Printable first ∧ Printable second := by
  simp [Printable, or_imp, forall_and]

theorem isPrintable_of_number {character : Char}
    (numeric : Binary64.isNumberCharacter character = true) : isPrintable character = true := by
  simp only [Binary64.isNumberCharacter, Bool.or_eq_true, List.contains_eq_mem,
    decide_eq_true_eq] at numeric
  rcases numeric with digit | mark
  · obtain ⟨reached, within⟩ := Integer.isAsciiDigit_iff.mp digit
    exact isPrintable_of_ascii (by omega) (by omega)
  · have every : ∀ other ∈ ['+', '-', '.', 'e', 'E'], isPrintable other = true :=
      List.all_eq_true.mp (by decide)
    exact every character mark

/-- The characters at which a text is broken into lines. -/
def lineBreaks : List Char :=
  ['\n', '\x0b', '\x0c', '\r', '\x1c', '\x1d', '\x1e', '\u0085', '\u2028', '\u2029']

/-- Printable text stays on one line. -/
theorem Printable.unbroken {text : String} (printable : Printable text) :
    ∀ lineBreak ∈ lineBreaks, lineBreak ∉ text.toList := by
  have every : ∀ lineBreak ∈ lineBreaks, (!isPrintable lineBreak) = true :=
    List.all_eq_true.mp (by decide +kernel)
  intro lineBreak listed member
  have hidden := every lineBreak listed
  rw [printable lineBreak member] at hidden
  exact Bool.false_ne_true hidden

/-! ## Shown operands -/

namespace Operand

variable {α : Type} {showValue : α → String}

theorem printable_render (printable : ∀ value, Printable (showValue value))
    (operand : Operand α) : Printable (operand.render showValue) := by
  cases operand with
  | given value => exact printable value
  | dropped => exact (by decide : Printable "[]")

/-- Operands are shown apart when their values are, and no value is shown as a dropped operand. -/
theorem eq_of_render {shownWell : α → Prop}
    (injective : ∀ {value other}, shownWell value → shownWell other →
      showValue value = showValue other → value = other)
    (apart : ∀ {value}, shownWell value → showValue value ≠ "[]") {first second : Operand α}
    (firstWell : ∀ value, first = .given value → shownWell value)
    (secondWell : ∀ value, second = .given value → shownWell value)
    (same : first.render showValue = second.render showValue) : first = second := by
  cases first with
  | given value =>
      cases second with
      | given other => rw [injective (firstWell value rfl) (secondWell other rfl) same]
      | dropped => exact absurd same (apart (firstWell value rfl))
  | dropped =>
      cases second with
      | given other => exact absurd same.symm (apart (secondWell other rfl))
      | dropped => rfl

theorem render_injective (injective : Function.Injective showValue)
    (apart : ∀ value, showValue value ≠ "[]") : Function.Injective (render showValue) := by
  intro first second same
  exact eq_of_render (fun _ _ shown => injective shown) (fun {value} _ => apart value)
    (fun _ _ => trivial) (fun _ _ => trivial) same

end Operand

theorem quoted_ne {text other : String} (unmarked : other.toList.head? ≠ some singleMark)
    (undoubled : other.toList.head? ≠ some doubleMark) : quoted text ≠ other := by
  rintro rfl
  rw [head?_quoted] at unmarked undoubled
  rcases quotationMark_eq text.toList with single | double
  · exact unmarked (by rw [single])
  · exact undoubled (by rw [double])

theorem toString_ne_brackets (value : Int) : toString value ≠ "[]" := by
  intro same
  have numeric := Binary64.numeric_toString value '['
  rw [same] at numeric
  exact absurd (numeric (by decide)) (by decide)

namespace Config

variable {config other : Config}

/-! ## Shown values -/

theorem printable_shownValue (inRange : config.TimeoutInRange) (setting : Setting) :
    Printable (config.shownValue setting) := by
  cases setting with
  | verbose =>
      have booleans : ∀ value, Printable (shownBoolean value) := by decide
      exact booleans config.verbose
  | host => exact Operand.printable_render isPrintable_quoted config.host
  | port =>
      apply Operand.printable_render
      intro port character member
      exact isPrintable_of_number (Binary64.numeric_toString port character member)
  | timeout =>
      cases given : config.timeout with
      | given timeout =>
          have bounded := inRange timeout given
          have numeric :=
            (Binary64.numeric_renderWith bounded.canonical bounded.isFinite "inf" "nan").1
          rw [shownValue, given]
          intro character member
          exact isPrintable_of_number (numeric character member)
      | dropped =>
          rw [shownValue, given]
          exact (by decide : Printable "[]")
  | keyFile =>
      cases given : config.keyFile with
      | none =>
          simp only [shownValue, given]
          exact (by decide : Printable "None")
      | some path =>
          simp only [shownValue, given]
          exact Operand.printable_render isPrintable_quoted path

theorem verbose_of_shownValue (same : config.shownValue .verbose = other.shownValue .verbose) :
    config.verbose = other.verbose := by
  have injective : ∀ value other, shownBoolean value = shownBoolean other → value = other := by
    decide
  exact injective config.verbose other.verbose same

theorem host_of_shownValue (same : config.shownValue .host = other.shownValue .host) :
    config.host = other.host := by
  apply Operand.render_injective (fun _ _ => quoted_injective) _ same
  intro text
  exact quoted_ne (by decide) (by decide)

theorem port_of_shownValue (same : config.shownValue .port = other.shownValue .port) :
    config.port = other.port :=
  Operand.render_injective Integer.toString_injective toString_ne_brackets same

/-- A missing key file is shown as no path is. -/
theorem keyFile_of_shownValue (same : config.shownValue .keyFile = other.shownValue .keyFile) :
    config.keyFile = other.keyFile := by
  have unlisted (text : String) : quoted text ≠ "[]" := quoted_ne (by decide) (by decide)
  have apart (path : Operand String) : path.render quoted ≠ "None" := by
    cases path with
    | given text => exact quoted_ne (by decide) (by decide)
    | dropped => decide
  cases configEq : config.keyFile with
  | none =>
      cases otherEq : other.keyFile with
      | none => rfl
      | some path =>
          simp only [shownValue, configEq, otherEq] at same
          exact absurd same.symm (apart path)
  | some path =>
      cases otherEq : other.keyFile with
      | none =>
          simp only [shownValue, configEq, otherEq] at same
          exact absurd same (apart path)
      | some otherPath =>
          simp only [shownValue, configEq, otherEq] at same
          rw [Operand.render_injective (fun _ _ => quoted_injective) unlisted same]

/-- A timeout in range reads back from its text, so it is told by it. -/
theorem timeout_of_shownValue (inRange : config.TimeoutInRange) (otherInRange : other.TimeoutInRange)
    (same : config.shownValue .timeout = other.shownValue .timeout) :
    config.timeout = other.timeout := by
  apply Operand.eq_of_render _ _ inRange otherInRange same
  · intro value timeout bounded otherBounded shown
    have reads := Binary64.read?_renderWith bounded.canonical bounded.isFinite "inf" "nan"
    rw [show value.renderWith "inf" "nan" = timeout.renderWith "inf" "nan" from shown,
      Binary64.read?_renderWith otherBounded.canonical otherBounded.isFinite] at reads
    exact (Option.some.inj reads).symm
  · intro value bounded brackets
    have numeric := (Binary64.numeric_renderWith bounded.canonical bounded.isFinite "inf" "nan").1
    rw [show value.renderWith "inf" "nan" = "[]" from brackets] at numeric
    exact absurd (numeric '[' (by decide)) (by decide)

/-! ## Lines -/

theorem printable_dumpLine (inRange : config.TimeoutInRange) (setting : Setting) :
    Printable (config.dumpLine setting) := by
  have named : Printable setting.name := by
    cases setting <;> decide
  have sourced : Printable (config.sourceOf setting).name := by
    cases config.sourceOf setting <;> decide
  have shown := printable_shownValue inRange setting
  simp only [dumpLine, printable_append]
  refine ⟨⟨⟨⟨⟨⟨?_, named⟩, ?_⟩, shown⟩, ?_⟩, sourced⟩, ?_⟩ <;> decide

/-- What stands behind the value in a line. -/
def sourceTail (source : Source) : List Char :=
  '(' :: source.name.toList ++ [')']

theorem sourceTail_injective : Function.Injective sourceTail := by
  intro first second same
  have names : first.name = second.name := by
    simpa [sourceTail, String.toList_inj] using same
  have found := Source.ofName?_name first
  rw [names, Source.ofName?_name] at found
  exact (Option.some.inj found).symm

theorem toList_dumpLine (config : Config) (setting : Setting) :
    (config.dumpLine setting).toList =
      ("config " ++ setting.name ++ "=").toList ++
        ((config.shownValue setting).toList ++ ' ' :: sourceTail (config.sourceOf setting)) := by
  simp [dumpLine, sourceTail]

/-- The line of a setting tells its value and its source. -/
theorem eq_of_dumpLine {setting : Setting}
    (same : config.dumpLine setting = other.dumpLine setting) :
    config.shownValue setting = other.shownValue setting ∧
      config.sourceOf setting = other.sourceOf setting := by
  have solid (source : Source) : ' ' ∉ sourceTail source := by
    cases source <;> decide
  have tails := congrArg String.toList same
  rw [toList_dumpLine, toList_dumpLine] at tails
  obtain ⟨values, sources⟩ :=
    append_mark_inj (solid _) (solid _) (List.append_cancel_left tails)
  exact ⟨String.toList_inj.mp values, sourceTail_injective sources⟩

/-- What two configurations have in common when they are shown alike. -/
structure ShownAlike (config other : Config) : Prop where
  verbose : config.verbose = other.verbose
  host : config.host = other.host
  port : config.port = other.port
  timeout : config.timeout = other.timeout
  keyFile : config.keyFile = other.keyFile
  source : ∀ setting : Setting, config.source setting.name = other.source setting.name

/-- The lines of a configuration tell everything about its settings. -/
theorem shownAlike_of_dump (inRange : config.TimeoutInRange) (otherInRange : other.TimeoutInRange)
    (same : config.dump = other.dump) : ShownAlike config other := by
  have lines (setting : Setting) :
      config.shownValue setting = other.shownValue setting ∧
        config.sourceOf setting = other.sourceOf setting :=
    eq_of_dumpLine (List.map_inj_left.mp same setting (Setting.mem_all setting))
  constructor
  case verbose => exact verbose_of_shownValue (lines .verbose).1
  case host => exact host_of_shownValue (lines .host).1
  case port => exact port_of_shownValue (lines .port).1
  case timeout => exact timeout_of_shownValue inRange otherInRange (lines .timeout).1
  case keyFile => exact keyFile_of_shownValue (lines .keyFile).1
  case source =>
    intro setting
    rw [source_name, source_name]
    exact (lines setting).2

end Config

end ProxyLauncher
