import DomainRules.Builder

/-! Binary snapshots of rule sets: a header, then for each kind the number of its rules and each rule behind
its length. Numbers have four bytes, the most significant first. -/

namespace DomainRules.Snapshot

def magic : List UInt8 := [0x44, 0x53, 0x45, 0x54]

def version : UInt8 := 1

def header : List UInt8 := magic ++ [version]

/-- A number in four bytes, into which it need not fit. -/
def encodeNumber (n : Nat) : Except Fault (List UInt8) :=
  if n < 0x100000000 then
    .ok [(n / 0x1000000).toUInt8, (n / 0x10000).toUInt8, (n / 0x100).toUInt8, n.toUInt8]
  else .error .numberTooLarge

def encodeRule (rule : String) : Except Fault (List UInt8) := do
  let bytes := Text.Utf8.encode rule
  return (← encodeNumber bytes.length) ++ bytes

def encodeRules (rules : List String) : Except Fault (List UInt8) := do
  let count ← encodeNumber rules.length
  return count ++ (← rules.mapM encodeRule).flatten

def encode (set : RuleSet) : Except Fault (List UInt8) := do
  let sections ← Kind.all.mapM fun kind => encodeRules (set.rules kind)
  return header ++ sections.flatten

/-- Bytes not read yet and where they begin. -/
structure Cursor where
  offset : Nat
  bytes : List UInt8

def Cursor.number (cursor : Cursor) : Except Flaw (Nat × Cursor) :=
  match cursor.bytes with
  | a :: b :: c :: d :: bytes =>
    .ok (((a.toNat * 256 + b.toNat) * 256 + c.toNat) * 256 + d.toNat, ⟨cursor.offset + 4, bytes⟩)
  | _ => .error (.noNumber cursor.offset)

def Cursor.rule (cursor : Cursor) (kind : Kind) : Except Flaw (String × Cursor) := do
  let (length, cursor) ← cursor.number
  let raw := cursor.bytes.take length
  if raw.length < length then throw (.shortRule kind cursor.offset)
  match Text.Utf8.decode raw with
  | .error _ => throw (.undecodableRule kind cursor.offset)
  | .ok rule => return (rule, ⟨cursor.offset + length, cursor.bytes.drop length⟩)

variable [Regex.Host]

/-- Reads rules of a kind and inserts each before the next one is read. -/
def readRules (kind : Kind) : Nat → Builder → Cursor → Except Fault (Builder × Cursor)
  | 0, builder, cursor => .ok (builder, cursor)
  | count + 1, builder, cursor => do
    let (rule, cursor) ← (cursor.rule kind).mapError .badSnapshot
    readRules kind count (← builder.insert kind rule) cursor

def readKinds : List Kind → Builder → Cursor → Except Fault (Builder × Cursor)
  | [], builder, cursor => .ok (builder, cursor)
  | kind :: kinds, builder, cursor => do
    let (count, cursor) ← cursor.number.mapError .badSnapshot
    let (builder, cursor) ← readRules kind count builder cursor
    readKinds kinds builder cursor

/-- The bytes behind the header. -/
def body (bytes : List UInt8) : Except Flaw Cursor :=
  if bytes.length < header.length then .error .noHeader
  else if bytes.take magic.length ≠ magic then .error (.magic (bytes.take magic.length))
  else match bytes.drop magic.length with
    | [] => .error .noHeader
    | found :: rest =>
      if found = version then .ok ⟨header.length, rest⟩ else .error (.version found.toNat)

def restore (bytes : List UInt8) (options : Options) : Except Fault Builder := do
  let cursor ← (body bytes).mapError .badSnapshot
  let (builder, cursor) ← readKinds Kind.all (.new options) cursor
  if cursor.bytes ≠ [] then throw (.badSnapshot (.trailing cursor.bytes.length))
  return builder

def decode (bytes : List UInt8) (options : Options) : Except Fault RuleSet := do
  (← restore bytes options).freeze.1

end DomainRules.Snapshot
