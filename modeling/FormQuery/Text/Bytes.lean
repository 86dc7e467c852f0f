import FormQuery.Text.Quoted

/-! Texts stored as octets. The encoding is found from the first octets, as a JSON text allows, and octets that encode
nothing are reported with the place and the reason. -/

namespace FormQuery.Text

inductive DecodeReason where
  | invalidStart
  | invalidContinuation
  | endOfData
  | truncated
  | outOfRange

def DecodeReason.text : DecodeReason → String
  | invalidStart => "invalid start byte"
  | invalidContinuation => "invalid continuation byte"
  | endOfData => "unexpected end of data"
  | truncated => "truncated data"
  | outOfRange => "code point not in range(0x110000)"

structure DecodeFault where
  encoding : String
  position : Nat
  octets : List UInt8
  reason : DecodeReason

def DecodeFault.message (fault : DecodeFault) : String :=
  let place := match fault.octets with
    | [octet] => s!"byte 0x{String.ofList (hexDigits 2 octet.toNat)} in position {fault.position}"
    | octets => s!"bytes in position {fault.position}-{fault.position + octets.length - 1}"
  s!"'{fault.encoding}' codec can't decode {place}: {fault.reason.text}"

def scalar (code : Nat) : Char := if code.isValidChar then Char.ofNat code else Char.ofNat 0xfffd

/-- One character of a text and the number of octets after its first one, or how many octets fail and why. -/
abbrev Octets := Except (Nat × DecodeReason) (Char × Nat)

def isContinuation (octet : UInt8) : Bool := 0x80 ≤ octet && octet < 0xc0

def payload (octet : UInt8) : Nat := octet.toNat % 64

def secondOfThree (first second : UInt8) : Bool := isContinuation second && !(first == 0xe0 && second < 0xa0)

def secondOfFour (first second : UInt8) : Bool :=
  isContinuation second && !(first == 0xf0 && second < 0x90) && !(first == 0xf4 && 0x90 ≤ second)

/-- Reads the character that starts with `first`. The halves of surrogate pairs have three octets like any other code
point of their size, but a truncated half is no start of anything. -/
def readOctets (first : UInt8) (rest : List UInt8) : Octets :=
  if first < 0x80 then .ok (Char.ofNat first.toNat, 0)
  else if first < 0xc2 then .error (1, .invalidStart)
  else if first < 0xe0 then
    match rest with
    | [] => .error (1, .endOfData)
    | second :: _ =>
      if isContinuation second then .ok (scalar ((first.toNat - 0xc0) * 64 + payload second), 1)
      else .error (1, .invalidContinuation)
  else if first < 0xf0 then
    match rest with
    | [] => .error (1, .endOfData)
    | [second] =>
      if secondOfThree first second && !(first == 0xed && 0xa0 ≤ second) then .error (2, .endOfData)
      else .error (1, .invalidContinuation)
    | second :: third :: _ =>
      if !secondOfThree first second then .error (1, .invalidContinuation)
      else if isContinuation third then
        .ok (scalar ((first.toNat - 0xe0) * 4096 + payload second * 64 + payload third), 2)
      else if first == 0xed && 0xa0 ≤ second then .error (1, .invalidContinuation)
      else .error (2, .invalidContinuation)
  else if first < 0xf5 then
    match rest with
    | [] => .error (1, .endOfData)
    | second :: rest =>
      if !secondOfFour first second then .error (1, .invalidContinuation)
      else
        match rest with
        | [] => .error (2, .endOfData)
        | third :: rest =>
          if !isContinuation third then .error (2, .invalidContinuation)
          else
            match rest with
            | [] => .error (3, .endOfData)
            | fourth :: _ =>
              if isContinuation fourth then
                let high := (first.toNat - 0xf0) * 262144 + payload second * 4096
                .ok (scalar (high + payload third * 64 + payload fourth), 3)
              else .error (3, .invalidContinuation)
  else .error (1, .invalidStart)

def decodeOctets (position : Nat) : List UInt8 → Except DecodeFault (List Char)
  | [] => .ok []
  | first :: rest =>
    match readOctets first rest with
    | .error (count, reason) => .error ⟨"utf-8", position, (first :: rest).take count, reason⟩
    | .ok (c, more) => (decodeOctets (position + 1 + more) (rest.drop more)).map (c :: ·)
termination_by octets => octets.length
decreasing_by simp only [List.length_drop, List.length_cons]; omega

structure Units where
  size : Nat
  bigEndian : Bool

def Units.encoding (units : Units) : String :=
  s!"utf-{8 * units.size}-" ++ (if units.bigEndian then "be" else "le")

def Units.value (units : Units) (octets : List UInt8) : Nat :=
  (if units.bigEndian then octets else octets.reverse).foldl (fun value octet => 256 * value + octet.toNat) 0

def Units.split (units : Units) (position : Nat) (octets : List UInt8) : Except DecodeFault (List Nat) :=
  go octets.length position octets
where
  go : Nat → Nat → List UInt8 → Except DecodeFault (List Nat)
    | 0, _, _ => .ok []
    | left + 1, position, octets =>
      let unit := octets.take units.size
      if octets.isEmpty then .ok []
      else if unit.length < units.size then .error ⟨units.encoding, position, unit, .truncated⟩
      else if units.size = 4 && units.value unit > 0x10ffff then
        .error ⟨units.encoding, position, unit, .outOfRange⟩
      else (go left (position + units.size) (octets.drop units.size)).map (units.value unit :: ·)

def isHighHalf (unit : Nat) : Bool := 0xd800 ≤ unit && unit < 0xdc00

def isLowHalf (unit : Nat) : Bool := 0xdc00 ≤ unit && unit < 0xe000

def joinHalves (high low : Nat) : Char := scalar (0x10000 + (high - 0xd800) * 0x400 + (low - 0xdc00))

def joinUnits : List Nat → List Char
  | [] => []
  | [unit] => [scalar unit]
  | high :: low :: rest =>
    if isHighHalf high && isLowHalf low then joinHalves high low :: joinUnits rest
    else scalar high :: joinUnits (low :: rest)

def Units.decode (units : Units) (position : Nat) (octets : List UInt8) : Except DecodeFault (List Char) :=
  (units.split position octets).map fun found => if units.size = 2 then joinUnits found else found.map scalar

/-- Decodes octets. A byte order mark settles the encoding; without one the zeros among the first four octets do,
since a JSON text starts with ASCII characters. -/
def decode (octets : List UInt8) : Except DecodeFault (List Char) :=
  match octets with
  | 0 :: 0 :: 0xfe :: 0xff :: rest => Units.decode ⟨4, true⟩ 4 rest
  | 0xff :: 0xfe :: 0 :: 0 :: rest => Units.decode ⟨4, false⟩ 4 rest
  | 0xfe :: 0xff :: rest => Units.decode ⟨2, true⟩ 2 rest
  | 0xff :: 0xfe :: rest => Units.decode ⟨2, false⟩ 2 rest
  | 0xef :: 0xbb :: 0xbf :: rest => decodeOctets 0 rest
  | first :: second :: third :: fourth :: _ =>
    if first == 0 then Units.decode ⟨if second == 0 then 4 else 2, true⟩ 0 octets
    else if second == 0 then Units.decode ⟨if third == 0 && fourth == 0 then 4 else 2, false⟩ 0 octets
    else decodeOctets 0 octets
  | [first, second] =>
    if first == 0 then Units.decode ⟨2, true⟩ 0 octets
    else if second == 0 then Units.decode ⟨2, false⟩ 0 octets
    else decodeOctets 0 octets
  | _ => decodeOctets 0 octets

def ofOctets? (octets : List UInt8) : Option String := String.fromUTF8? (ByteArray.mk octets.toArray)

end FormQuery.Text
