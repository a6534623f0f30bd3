import ProxyLauncher.Text.Punycode

/-!
# Host names

Before a host is looked up it is encoded label by label. A label must not be
empty and must not exceed sixty-three characters in its encoded form; only
after the last dot may nothing stand.

Labels beyond ASCII are prepared first: characters that count as the same are
made the same, some are left out, and some may not occur at all. That is a
matter of tables which the resolver has; what it makes of a label is encoded in
ASCII.

A host that breaks these rules cannot even be looked up.
-/

namespace ProxyLauncher.Listener.HostName

/-- The characters that divide labels. -/
def isDot (character : Char) : Bool :=
  character = '.' || character = '\u3002' || character = '\uff0e' || character = '\uff61'

/-- The longest label, in its encoded form. -/
def longestLabel : Nat := 63

/-- What marks the encoded form of a label beyond ASCII. -/
def encodedMark : List Char := "xn--".toList

/-- A label of ASCII alone. -/
def isPlainLabel (label : List Char) : Bool :=
  label.all Text.Punycode.isPlain

/-- The length of a label of ASCII alone is in bounds. -/
def hasPlainLength (label : List Char) : Bool :=
  0 < label.length && label.length ≤ longestLabel

/-- A label can be encoded, given how labels beyond ASCII are prepared for that. What has been
prepared may not look as if it were encoded already. -/
def isLabel (prepare : List Char → Option (List Char)) (label : List Char) : Bool :=
  if isPlainLabel label then hasPlainLength label
  else
    match prepare label with
    | none => false
    | some prepared =>
      if isPlainLabel prepared then hasPlainLength prepared
      else
        !encodedMark.isPrefixOf (prepared.map Char.toLower) &&
          encodedMark.length + Text.Punycode.encodedLength prepared ≤ longestLabel

/-- The labels of a host. What follows the last dot is no label if it is empty. -/
def labels (host : List Char) : List (List Char) :=
  let pieces := host.splitOnP isDot
  if pieces.getLast? = some [] then pieces.dropLast else pieces

/-- A host can be encoded. -/
def isEncodable (prepare : List Char → Option (List Char)) (host : List Char) : Bool :=
  (labels host).all (isLabel prepare)

end ProxyLauncher.Listener.HostName
