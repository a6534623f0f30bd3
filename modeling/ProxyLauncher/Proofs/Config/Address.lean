import ProxyLauncher.Proofs.CommandLine.Spelling
import ProxyLauncher.Proofs.Config.EnvironmentLayer
import ProxyLauncher.Proofs.Number.Digits
import ProxyLauncher.Proofs.Text.Cut

/-!
# Addresses

An address is a host and a port with a colon between.  A host may have colons
and digits of its own, but a written port has no colon, so the last one is the
colon between the two.

What stands behind it can be given back as a port in every way that there is: in
the variable, attached to the flag, or as the argument behind the flag.  The
last way needs the exception for negative numbers, without which a minus sign
would make the argument a flag.
-/

namespace ProxyLauncher

open CommandLine Number

/-! ## Written integers as arguments -/

namespace CommandLine

open ProxyLauncher.Text Number.Integer

theorem isDecimalDigit_of_ascii {digit : Char} (ascii : isAsciiDigit digit = true) :
    isDecimalDigit digit = true := by
  rw [isDecimalDigit, digitValue?_of_ascii ascii]
  rfl

/-- A numeral behind a dash is a negative number. -/
theorem isNegativeNumber_of_numeral {digits : List Char} (numeral : IsNumeral digits) :
    isNegativeNumber ('-' :: digits) = true := by
  have solid : dropFinalBreak ('-' :: digits) = '-' :: digits := by
    apply if_neg
    intro broken
    rcases List.mem_cons.mp (List.mem_of_getLast? broken) with dash | member
    · contradiction
    · exact absurd (numeral.2 '\n' member) (by decide)
  have whole : digits.dropWhile isDecimalDigit = [] := by
    apply List.dropWhile_eq_nil_iff.mpr
    intro digit member
    exact isDecimalDigit_of_ascii (numeral.2 digit member)
  have nonempty : digits.isEmpty = false := by simpa using numeral.1
  rw [isNegativeNumber, solid]
  simp [whole, nonempty]

/-- No declared spelling has a digit behind its first dash. -/
theorem second_of_mem_declared {spelling : String} {flag : Flag}
    (known : (spelling, flag) ∈ declared) {digit : Char} (ascii : isAsciiDigit digit = true) :
    spelling.toList[1]? ≠ some digit := by
  have every : ∀ entry ∈ declared, entry.1.toList[1]?.all (!isAsciiDigit ·) = true := by decide
  intro second
  have apart := every (spelling, flag) known
  rw [second, Option.all_some, ascii] at apart
  exact Bool.false_ne_true apart

/-- A numeral behind a dash begins no declared spelling, so it is plain. -/
theorem classify_of_negative {text : String} {digits : List Char} (numeral : IsNumeral digits)
    (textEq : text.toList = '-' :: digits) : classify text = .ok .plain := by
  have negative := isNegativeNumber_of_numeral numeral
  rcases digits with _ | ⟨digit, rest⟩
  · exact absurd rfl numeral.1
  have ascii := numeral.2 digit List.mem_cons_self
  have dash : digit ≠ '-' := by
    rintro rfl
    exact absurd ascii (by decide)
  have apart {spelling : String} {flag : Flag} (known : (spelling, flag) ∈ declared) :
      spelling.toList[1]? ≠ some digit :=
    second_of_mem_declared known ascii
  have undeclared : flagOf? text = none := by
    apply flagOf?_of_undeclared
    rintro ⟨spelling, flag⟩ known rfl
    apply apart known
    rw [textEq]
    rfl
  have unsigned : attachedFlag? ('-' :: digit :: rest) = none := by
    apply attachedFlag?_eq_none
    intro signed
    rcases List.mem_cons.mp signed with same | member
    · contradiction
    · exact absurd (numeral.2 '=' member) (by decide)
  have unhinted : hints ('-' :: digit :: rest) = [] := by
    apply List.filterMap_eq_nil_iff.mpr
    rintro ⟨spelling, flag⟩ known
    have shorter : spelling.toList ≠ ['-', digit] := by
      intro spellingEq
      exact apart known (by rw [spellingEq]; rfl)
    have longer : ¬ ('-' :: digit :: rest) <+: spelling.toList := by
      rintro ⟨others, spellingEq⟩
      exact apart known (by rw [← spellingEq]; rfl)
    simp [shorter, longer]
  rw [classify, textEq]
  simp [undeclared, classifyDashed, unsigned, unhinted, negative, dash]

/-- A written integer is a plain argument, also when it is negative. -/
theorem classify_toString (value : Int) : classify (toString value) = .ok .plain := by
  have numeral := numeral_toDigits value.natAbs
  have valueEq := toList_toString value
  by_cases negative : value < 0
  · rw [if_pos negative] at valueEq
    exact classify_of_negative numeral valueEq
  · rw [if_neg negative, List.nil_append] at valueEq
    rw [classify, valueEq]
    split
    · rename_i rest digitsEq
      have dash := numeral.2 '-' (by rw [digitsEq]; exact List.mem_cons_self)
      exact absurd dash (by decide)
    · rfl

/-- What reads as a port is the port of the flag, attached to any spelling or behind it. -/
theorem read_port {spelling : String} (known : (spelling, .port) ∈ declared) {port : Int}
    (short : Decimal.digitCount port.natAbs ≤ digitLimit) :
    read [spelling ++ "=" ++ toString port] = .ok [.port (.given port)] ∧
      read [spelling, toString port] = .ok [.port (.given port)] := by
  have plain := classify_toString port
  have kept : some (toString port) ≠ some droppedOperand := by
    intro dropped
    rw [Option.some.inj dropped] at plain
    cases plain
  have lenient := readLenient?_of_readPlain (readPlain_toString short)
  have used : useFlag .port spelling (some (toString port)) = .ok (.port (.given port)) :=
    useFlag_of_yields (.kept kept (.port lenient))
  have attached : read [spelling ++ "=" ++ toString port] = .ok [.port (.given port)] := by
    rw [read_attached known, used, map_ok]
  refine ⟨attached, ?_⟩
  rw [read_eq, readFrom_eq_effect, effect_separate (by decide) known plain, ← readFrom_eq_effect]
  exact attached

end CommandLine

namespace Config

open ProxyLauncher.Text

/-! ## The two sides of the colon -/

theorem colon_not_mem_toString (value : Int) : ':' ∉ (toString value).toList := by
  intro member
  rcases Integer.digit_or_sign_of_mem_toString member with sign | digit
  · contradiction
  · exact absurd digit (by decide)

section Given

variable {config : Config} {host : String} {port : Int} (hosts : config.host = .given host)
  (listens : config.port = .given port)

include hosts listens

theorem toList_address :
    config.address.toList = host.toList ++ ':' :: (toString port).toList := by
  simp [address, hosts, listens]

/-- The port stands behind the last colon of the address. -/
theorem cutAtLast?_address :
    cutAtLast? ':' config.address.toList = some (host.toList, (toString port).toList) := by
  rw [toList_address hosts listens]
  exact cutAtLast?_append host.toList (colon_not_mem_toString port)

/-- The address has the host and the port in it. -/
theorem eq_of_address {other : Config} {otherHost : String} {otherPort : Int}
    (otherHosts : other.host = .given otherHost) (otherListens : other.port = .given otherPort)
    (same : other.address = config.address) : otherHost = host ∧ otherPort = port := by
  have cut := cutAtLast?_address otherHosts otherListens
  rw [same, cutAtLast?_address hosts listens] at cut
  simp only [Option.some.injEq, Prod.mk.injEq, String.toList_inj] at cut
  exact ⟨cut.1.symm, (Integer.toString_injective cut.2).symm⟩

end Given

/-! ## Giving the port back -/

/-- A port that is given in its variable alone is the only change. -/
theorem withEnvironment_port {config : Config} (untagged : config.sourceOf .port = .default)
    {text : String} {port : Int} (reads : readPort text = .ok port) :
    config.withEnvironment (.ofList [(Setting.port.variableName, text)]) =
      .ok (config.assign .environment (.port (.given port))) := by
  have texts (setting : Setting) :
      config.variableText (.ofList [(Setting.port.variableName, text)]) setting =
        if setting = .port then some text else none := by
    cases setting <;> simp [variableText, untagged, Environment.ofList, Setting.variableName]
  have gives : readText .port text = .ok (.port (.given port)) := by
    rw [readText, reads, map_ok]
  rw [withEnvironment_eq]
  simp [firstFault?, givenBy, readingOrder, faultAt?, givenAt?, texts, gives, overlay]

/-- How an address holds the host and the port that it was made from. -/
structure AddressLaw (host : String) (port : Int) : Prop where
  /-- The address is cut at its last colon into the host and the written port. -/
  cut : ∀ config : Config, config.host = .given host → config.port = .given port →
    cutAtLast? ':' config.address.toList = some (host.toList, (toString port).toList)
  /-- The written port is accepted in its variable, and is the port again. -/
  supplied : ∀ base : Config, base.sourceOf .port = .default →
    base.withEnvironment (.ofList [("TESLA_HTTP_PROXY_PORT", toString port)]) =
      .ok (base.assign .environment (.port (.given port)))
  /-- The written port is accepted when it is attached to the flag, and is the port again. -/
  attached : ∀ base : Config, base.withFlags ["--port=" ++ toString port] =
    .ok (base.assign .flag (.port (.given port)))
  /-- The written port is accepted behind the flag, and is the port again. -/
  separate : ∀ base : Config, base.withFlags ["-port", toString port] =
    .ok (base.assign .flag (.port (.given port)))
  /-- No other host or port has the address. -/
  unique : ∀ config other : Config, config.host = .given host → config.port = .given port →
    ∀ otherHost otherPort, other.host = .given otherHost → other.port = .given otherPort →
      other.address = config.address → otherHost = host ∧ otherPort = port

/-- An address holds its host and its port, and the port can be given back in every way. -/
theorem address_decodes (host : String) {port : Int}
    (short : Decimal.digitCount port.natAbs ≤ Integer.digitLimit) : AddressLaw host port := by
  constructor
  case cut =>
    intro config hosts listens
    exact cutAtLast?_address hosts listens
  case supplied =>
    intro base untagged
    exact withEnvironment_port untagged
      (readPort_eq_ok_iff.mpr (Integer.readPlain_toString short))
  case attached =>
    intro base
    have known : ("--port", Flag.port) ∈ declared := by decide
    rw [withFlags, show "--port=" = "--port" ++ "=" from rfl, (read_port known short).1]
    rfl
  case separate =>
    intro base
    have known : ("-port", Flag.port) ∈ declared := by decide
    rw [withFlags, (read_port known short).2]
    rfl
  case unique =>
    intro config other hosts listens otherHost otherPort otherHosts otherListens same
    exact eq_of_address hosts listens otherHosts otherListens same

/-- A host with colons of its own, and a port below zero. -/
theorem address_decodes_colons :
    Decimal.digitCount (-5 : Int).natAbs ≤ Integer.digitLimit ∧ AddressLaw "unix://::1" (-5) := by
  have short : Decimal.digitCount (-5 : Int).natAbs ≤ Integer.digitLimit := by decide
  exact ⟨short, address_decodes "unix://::1" short⟩

end Config

end ProxyLauncher
