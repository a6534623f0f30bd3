import ProxyLauncher.Key.Encoding
import ProxyLauncher.Key.Pem

/-!
# Contents of a key file

The first block with the label of a private key counts; the label tells how the
contents are encoded. Headers may say that the contents are encrypted, which
they cannot be read through.
-/

namespace ProxyLauncher.Key

open Pem

/-- The labels of private keys. -/
inductive Label where
  | wrapped
  | elliptic
  | primePair
  | fieldSignature
  | encrypted
  deriving DecidableEq, Repr

namespace Label

/-- Every label. -/
def all : List Label :=
  [.wrapped, .elliptic, .primePair, .fieldSignature, .encrypted]

/-- The text of a label. -/
def text : Label → String
  | .wrapped => "PRIVATE KEY"
  | .elliptic => "EC PRIVATE KEY"
  | .primePair => "RSA PRIVATE KEY"
  | .fieldSignature => "DSA PRIVATE KEY"
  | .encrypted => "ENCRYPTED PRIVATE KEY"

/-- The label of a text. -/
def ofText? (text : List Char) : Option Label :=
  all.find? fun label => label.text.toList = text

/-- Decodes the contents that stand under a label. -/
def decode : Label → Bytes → Except Fault Material
  | .wrapped => decodeWrapped
  | .elliptic => decodeElliptic none
  | .primePair => decodePrimePair
  | .fieldSignature => decodeFieldSignature
  | .encrypted => decodeEncrypted

end Label

/-- What the headers of a block say about encryption. A block that is marked as encrypted also says
how; no other mark is understood. -/
def checkEncryption (block : Block) : Except Fault Unit :=
  match block.header? "Proc-Type".toList with
  | none => .ok ()
  | some mark =>
    if mark = "4,ENCRYPTED".toList ∧
        (block.header? "DEK-Info".toList).any (fun cipher => cipher.contains ',') then
      .error .encrypted
    else .error .unreadable

/-- The first block that holds a private key. -/
def firstKeyBlock? (blocks : List Block) : Option (Label × Block) :=
  blocks.findSome? fun block => (Label.ofText? block.label).map (·, block)

/-- Decodes the contents of a key file. -/
def decodeFile (bytes : Bytes) : Except Fault Material := do
  let blocks ← wellFormed (blocks? bytes)
  let (label, block) ← wellFormed (firstKeyBlock? blocks)
  checkEncryption block
  label.decode block.contents

end ProxyLauncher.Key
