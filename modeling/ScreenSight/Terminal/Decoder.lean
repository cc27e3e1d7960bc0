import ScreenSight.Terminal.Action

/-!
# Decoding terminal captures

The bytes of a capture are read by a state machine for the control sequences of video terminals and
for UTF-8.  Every byte moves the machine to its next state and yields at most one action.  Malformed
UTF-8 shows as one replacement character for the whole sequence, and the byte that breaks a sequence
belongs to it.
-/

namespace ScreenSight.Terminal

/-- The numeric parameters of a control sequence as far as they have been read.  A parameter may
have subparameters, of which only the first counts; the finished ones are listed from the last
one on, and the stored values are counted with subparameters. -/
structure Parameters where
  finished : List Nat := []
  stored : Nat := 0
  subparameter : Bool := false
  current : Nat := 0
  deriving DecidableEq

/-- How many values a control sequence may have. -/
def parameterLimit : Nat := 32

/-- Greatest value of a parameter. -/
def parameterMax : Nat := 0xFFFF

/-- Store the value being read. -/
def Parameters.store (parameters : Parameters) (subparameterFollows : Bool) : Parameters where
  finished :=
    if parameters.subparameter then parameters.finished
    else parameters.current :: parameters.finished
  stored := parameters.stored + 1
  subparameter := subparameterFollows
  current := 0

/-- Read a digit or a separator.  Once the values are full, nothing more is read. -/
def Parameters.read (parameters : Parameters) (byte : Nat) : Parameters :=
  if parameters.stored = parameterLimit then parameters
  else if byte = 0x3B then parameters.store false
  else if byte = 0x3A then parameters.store true
  else
    { parameters with
      current := min (min (parameters.current * 10) parameterMax + (byte - 0x30)) parameterMax }

/-- The values of all parameters at the end of a sequence. -/
def Parameters.values (parameters : Parameters) : List Nat :=
  if parameters.stored = parameterLimit then parameters.finished.reverse
  else (parameters.store false).finished.reverse

/-- The states of the machine. -/
inductive State where
  /-- Plain text. -/
  | ground
  /-- Inside a UTF-8 sequence: the bits read so far, how many bytes follow, and the range of the
  next byte. -/
  | utf8 (bits remaining low high : Nat)
  /-- Behind an escape character. -/
  | escape
  /-- Behind an escape character and intermediate bytes. -/
  | escapeIntermediate
  /-- At the start of a control sequence. -/
  | sequenceEntry
  /-- In the parameters of a control sequence. -/
  | sequenceParameters (parameters : Parameters)
  /-- In the intermediate bytes of a control sequence. -/
  | sequenceIntermediate (parameters : Parameters)
  /-- In a control sequence that is malformed. -/
  | sequenceIgnored
  /-- At the start of a device control string. -/
  | deviceEntry
  | deviceParameters
  | deviceIntermediate
  /-- In the data of a device control string. -/
  | deviceData
  /-- In a device control string that is malformed. -/
  | deviceIgnored
  /-- In an operating system command. -/
  | systemCommand
  /-- In a string without any effect. -/
  | ignoredString
  deriving DecidableEq

/-- The character shown for malformed UTF-8. -/
def replacement : Char := '\uFFFD'

/-- The state behind the first byte of a UTF-8 sequence; the ranges leave out overlong forms,
surrogates and values beyond Unicode. -/
def State.ofLead (byte : Nat) : State :=
  if byte < 0xE0 then .utf8 (byte - 0xC0) 1 0x80 0xBF
  else if byte < 0xF0 then
    .utf8 (byte - 0xE0) 2 (if byte = 0xE0 then 0xA0 else 0x80) (if byte = 0xED then 0x9F else 0xBF)
  else
    .utf8 (byte - 0xF0) 3 (if byte = 0xF0 then 0x90 else 0x80) (if byte = 0xF4 then 0x8F else 0xBF)

/-- Read a byte inside a UTF-8 sequence. -/
def stepUtf8 (bits remaining low high byte : Nat) : State × Option Action :=
  if low ≤ byte ∧ byte ≤ high then
    let bits := bits * 64 + (byte - 0x80)
    if remaining = 1 then (.ground, some (.print (Char.ofNat bits)))
    else (.utf8 bits (remaining - 1) 0x80 0xBF, none)
  else (.ground, some (.print replacement))

/-- Whether a byte is a control character that does not end a sequence. -/
def isControl (byte : Nat) : Bool :=
  byte < 0x20

/-- Read a byte in plain text. -/
def stepGround (byte : UInt8) : State × Option Action :=
  let code := byte.toNat
  if isControl code then (.ground, Action.ofControl? byte)
  else if code < 0x80 then (.ground, some (.print (Char.ofNat code)))
  else if 0xC2 ≤ code ∧ code ≤ 0xF4 then (State.ofLead code, none)
  else (.ground, none)

/-- Read a byte behind an escape character. -/
def stepEscape (byte : UInt8) : State × Option Action :=
  let code := byte.toNat
  if isControl code then (.escape, Action.ofControl? byte)
  else if code < 0x30 then (.escapeIntermediate, none)
  else if code = 0x5B then (.sequenceEntry, none)
  else if code = 0x5D then (.systemCommand, none)
  else if code = 0x50 then (.deviceEntry, none)
  else if code = 0x58 ∨ code = 0x5E ∨ code = 0x5F then (.ignoredString, none)
  else if code < 0x7F then (.ground, none)
  else (.escape, none)

/-- End a control sequence. -/
def finishSequence (parameters : Parameters) (byte : UInt8) : State × Option Action :=
  (.ground, Action.ofSequence? parameters.values (Char.ofNat byte.toNat))

/-- Read a byte at the start of a control sequence or in its parameters; `state` is that state.  A
private marker is allowed at the start only. -/
def stepParameters (state : State) (start : Bool) (parameters : Parameters) (byte : UInt8) :
    State × Option Action :=
  let code := byte.toNat
  if isControl code then (state, Action.ofControl? byte)
  else if code < 0x30 then (.sequenceIntermediate parameters, none)
  else if code < 0x3C then (.sequenceParameters (parameters.read code), none)
  else if code < 0x40 then
    (if start then .sequenceParameters parameters else .sequenceIgnored, none)
  else if code < 0x7F then finishSequence parameters byte
  else (state, none)

/-- Read a byte in the intermediate bytes of a control sequence. -/
def stepIntermediate (parameters : Parameters) (byte : UInt8) : State × Option Action :=
  let code := byte.toNat
  if isControl code then (.sequenceIntermediate parameters, Action.ofControl? byte)
  else if code < 0x30 then (.sequenceIntermediate parameters, none)
  else if code < 0x40 then (.sequenceIgnored, none)
  else if code < 0x7F then finishSequence parameters byte
  else (.sequenceIntermediate parameters, none)

/-- The state of a device control string behind a byte of its header. -/
def stepDevice (state : State) (byte : Nat) : State :=
  if isControl byte then state
  else if byte < 0x30 then .deviceIntermediate
  else if byte < 0x40 then
    match state with
    | .deviceEntry => .deviceParameters
    | .deviceParameters => if byte < 0x3C then .deviceParameters else .deviceIgnored
    | _ => .deviceIgnored
  else if byte < 0x7F then .deviceData
  else state

/-- Read a byte.  Cancel and substitute characters end any sequence, and an escape character begins
a new one, except inside UTF-8. -/
def step (state : State) (byte : UInt8) : State × Option Action :=
  let code := byte.toNat
  match state with
  | .utf8 bits remaining low high => stepUtf8 bits remaining low high code
  | state =>
      if code = 0x18 ∨ code = 0x1A then (.ground, none)
      else if code = 0x1B then (.escape, none)
      else
        match state with
        | .ground => stepGround byte
        | .escape => stepEscape byte
        | .escapeIntermediate =>
            if isControl code then (.escapeIntermediate, Action.ofControl? byte)
            else if 0x30 ≤ code ∧ code < 0x7F then (.ground, none)
            else (.escapeIntermediate, none)
        | .sequenceEntry => stepParameters .sequenceEntry true {} byte
        | .sequenceParameters parameters => stepParameters state false parameters byte
        | .sequenceIntermediate parameters => stepIntermediate parameters byte
        | .sequenceIgnored =>
            if isControl code then (.sequenceIgnored, Action.ofControl? byte)
            else if 0x40 ≤ code ∧ code < 0x7F then (.ground, none)
            else (.sequenceIgnored, none)
        | .deviceEntry | .deviceParameters | .deviceIntermediate => (stepDevice state code, none)
        | .deviceData | .deviceIgnored | .ignoredString =>
            (if code = 0x9C then .ground else state, none)
        | .systemCommand => (if code = 0x07 then .ground else .systemCommand, none)
        | .utf8 .. => (state, none)

def decodeFrom (state : State) : List UInt8 → List Action
  | [] => []
  | byte :: rest =>
      let (next, action) := step state byte
      action.toList ++ decodeFrom next rest

def decode (bytes : List UInt8) : List Action :=
  decodeFrom .ground bytes

end ScreenSight.Terminal
