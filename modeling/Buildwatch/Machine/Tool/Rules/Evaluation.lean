import Buildwatch.Machine.Tool.Rules.Running

/-!
# Carrying out rules

The values of expressions, what statements do, and which rules apply to which records.
-/

namespace Buildwatch.Machine.Rules

/-! ## Numbers and texts -/

/-- The rest of a division, with the sign of the number that is divided. -/
def divisionRest (x y : Float) : Float :=
  if y == 0 || x.isInf then 0.0 / 0.0
  else
    match ratio? x, ratio? y with
    | some (negative, a), some (_, b) =>
      -- Both as multiples of a common unit.
      let n := (a.numerator * b.denominator) % (b.numerator * a.denominator)
      let r := floatOf (Decimal.double.round ⟨n, a.denominator * b.denominator⟩)
      if negative then -r else r
    | _, _ => if y.isInf then x else 0.0 / 0.0

def Operation.apply (o : Operation) (x y : Float) : Float :=
  match o with
  | .add => x + y
  | .subtract => x - y
  | .multiply => x * y
  | .divide => x / y
  | .remainder => divisionRest x y
  | .power => x.pow y

/-- How two things stand to each other, by whether one is less and one is more. -/
def Comparison.holds (c : Comparison) (isLess isMore : Bool) : Bool :=
  match c with
  | .less => isLess
  | .atMost => !isMore
  | .equal => !isLess && !isMore
  | .unequal => isLess || isMore
  | .more => isMore
  | .atLeast => !isLess

/-- A part of a text from a place on. Where the place is before the text, the part is as much
longer. -/
def part (r : Raw) (start : Float) (count : Option Float) : Raw :=
  let n : Int := clamped start
  let rest := r.drop (n - 1).toNat
  match count with
  | none => rest
  | some count =>
    let count : Int := clamped count
    rest.take (if n ≤ 0 then count - n else count).toNat

def placeOf (piece : Raw) : (place : Nat) → Raw → Nat
  | place, r =>
    if Raw.startsWith piece r then place
    else
      match r with
      | [] => 0
      | _ :: r => placeOf piece (place + 1) r

/-- What a match is replaced by: the sign for it stands for the match. -/
def replacement (found : Raw) : Raw → Raw
  | [] => []
  | '\\' :: '&' :: r => '&' :: replacement found r
  | '\\' :: '\\' :: r => '\\' :: replacement found r
  | '&' :: r => found ++ replacement found r
  | c :: r => c :: replacement found r

def substituted (e : Regex.Search) (all : Bool) (new r : Raw) : Raw × Nat :=
  let found := if all then e.all r else (e.first? r).toList
  let (pieces, place) := found.foldl (fun (pieces, place) (a, b) =>
    let gap := (r.drop place).take (a.index - place)
    (replacement (Regex.textBetween a b) new :: gap :: pieces, b.index)) (([] : List Raw), 0)
  (pieces.reverse.flatten ++ r.drop place, found.length)

def BuiltIn.function? : BuiltIn → Option (Float → Float)
  | .cosine => some Float.cos
  | .exponential => some Float.exp
  | .logarithm => some Float.log
  | .root => some Float.sqrt
  | .sine => some Float.sin
  | .integer => some fun x => match ratio? x with
    | some (negative, r) =>
      let y := floatOf (.finite ⟨r.numerator / r.denominator, 1⟩)
      if negative then -y else y
    | none => x
  | _ => none

namespace Run

/-! ## Expressions and statements -/

/-- Lays out values after a format; what was laid out before a mistake is handled too. -/
def laidOutBy (handle : Raw → Run Unit) (values : List Value) : Run Unit := do
  match values with
  | [] => pure ()
  | v :: args =>
    let format ← text v
    let numbers ← globalText "CONVFMT"
    let (pieces, mistake) := layOut numbers format (format.length + 1) format { args }
    handle pieces.flatten
    if let some m := mistake then fault m.message

mutual

/-- The value of an expression. -/
def evaluate : (fuel : Nat) → Expression → Run Value
  | 0, _ => throw .abandon
  | fuel + 1, e => do
    match e with
    | .number x => return .number x
    | .text r => return .text r
    | .found r =>
      let e ← ready r
      return .ofBool (e.isIn (← recordText))
    | .value p => fetch (← resolve fuel p)
    | .assign o p e =>
      let a ← resolve fuel p
      let v ← evaluate fuel e
      let v ← match o with
        | none => pure v
        | some o => do
          let old ← fetch a
          pure (Value.number (o.apply old.toNumber v.toNumber))
      put a v
      return v
    -- The place is worked out once: its key may have effects of its own.
    | .step amount isBefore p =>
      let a ← resolve fuel p
      let old := (← fetch a).toNumber
      put a (.number (old + amount))
      return .number (if isBefore then old + amount else old)
    | .negative e => return .number (-(← evaluate fuel e).toNumber)
    | .positive e => return .number (← evaluate fuel e).toNumber
    | .negation e => return .ofBool !(← evaluate fuel e).isTrue
    | .operation o a b =>
      let a ← evaluate fuel a
      let b ← evaluate fuel b
      return .number (o.apply a.toNumber b.toNumber)
    | .join a b =>
      let a ← text (← evaluate fuel a)
      let b ← text (← evaluate fuel b)
      return .text (a ++ b)
    | .compare c a b =>
      let a ← evaluate fuel a
      let b ← evaluate fuel b
      -- Two values compare as numbers only where both are or look like numbers.
      match a.number?, b.number? with
      | some x, some y => return .ofBool (c.holds (x < y) (y < x))
      | _, _ =>
        let r ← text a
        let s ← text b
        return .ofBool (c.holds (Raw.before r s) (Raw.before s r))
    | .matching isNegated a b =>
      let r ← text (← evaluate fuel a)
      let e ← ready (← patternOf fuel b)
      return .ofBool (e.isIn r != isNegated)
    | .both a b =>
      if (← evaluate fuel a).isTrue then return .ofBool (← evaluate fuel b).isTrue else return .ofBool false
    | .either a b =>
      if (← evaluate fuel a).isTrue then return .ofBool true else return .ofBool (← evaluate fuel b).isTrue
    | .choose a b c => if (← evaluate fuel a).isTrue then evaluate fuel b else evaluate fuel c
    | .isKey keys name =>
      let (key, _) ← keyOf fuel keys
      return .ofBool ((← table (← tableNumber name)).get? key).isSome
    | .call name args => call fuel name args
    | .builtIn f args => builtIn fuel f args
    | .record source name p =>
      let a ← match p with
        | some p => some <$> resolve fuel p
        | none => pure none
      match source, name with
      | .inputs, _ =>
        -- The numbers answered are those of the records asked for: none, one, or a failure.
        match ← nextOfInputs Tool.manyTurns with
        | none => return .number 0
        | some r =>
          put (a.getD (.field 0)) (.input r)
          return .number 1
      | source, name =>
        let name ← match name with
          | some e => do text (← evaluate fuel e)
          | none => pure []
        let isCommand := match source with
          | .command => true
          | _ => false
        match ← stream? isCommand name with
        | none => return .number (-1)
        | some s =>
          let (record, s) ← recordOf s
          setStream name s
          match record with
          | none => return .number 0
          | some r =>
            put (a.getD (.field 0)) (.input r)
            return .number 1

def evaluateAll : (fuel : Nat) → List Expression → Run (List Value)
  | 0, _ => throw .abandon
  | _, [] => return []
  | fuel + 1, e :: es => do
    let v ← evaluate fuel e
    return v :: (← evaluateAll fuel es)

def patternOf : (fuel : Nat) → Expression → Run Raw
  | 0, _ => throw .abandon
  | fuel + 1, e =>
    match e with
    | .found r => return r
    | e => do text (← evaluate fuel e)

/-- The key that values stand for, and whether it is a whole number. -/
def keyOf : (fuel : Nat) → List Expression → Run (Raw × Bool)
  | 0, _ => throw .abandon
  | fuel + 1, [e] => do
    let v ← evaluate fuel e
    let isNumber := match v with
      | .number x => (whole? x).isSome
      | _ => false
    return (← text v, isNumber)
  | fuel + 1, es => do
    let mut texts : List Raw := []
    for v in ← evaluateAll fuel es do texts := (← text v) :: texts
    return (Raw.join (← globalText "SUBSEP") texts.reverse, false)

def resolve : (fuel : Nat) → Place → Run Address
  | 0, _ => throw .abandon
  | fuel + 1, p => do
    match p with
    | .name r => return .name r
    | .field e => return .field (← fieldIndex (← evaluate fuel e))
    | .element name keys =>
      let (key, isNumber) ← keyOf fuel keys
      return .element (← tableNumber name) key isNumber

/-- The slot that an argument hands on. -/
def argument : (fuel : Nat) → Expression → Run Slot
  | 0, _ => throw .abandon
  | fuel + 1, e => do
    match e with
    | .value (.name r) =>
      if r = fieldCount then return .value (← fetch (.name r))
      match ← slot r with
      -- A name that is not settled yet may become a table in the function.
      | .unset none =>
        let n := (← get).tables.length
        modify fun s => { s with tables := (n, {}) :: s.tables }
        setSlot r (.unset (some n))
        return .unset (some n)
      | known => return known
    | e => return .value (← evaluate fuel e)

def call : (fuel : Nat) → Raw → List Expression → Run Value
  | 0, _, _ => throw .abandon
  | fuel + 1, name, args => do
    match (← get).script.functions.find? (·.name = name) with
    | none => return .unset
    | some f =>
      let mut slots : List Slot := []
      for a in args do slots := (← argument fuel a) :: slots
      -- Parameters without arguments are variables of the function.
      let outer := (← get).locals
      let given := slots.reverse ++ List.replicate (f.parameters.length - slots.length) (.unset none)
      modify fun s => { s with locals := f.parameters.zip given }
      let v ← tryCatch (do
        carryOutAll fuel f.body
        pure Value.unset) fun
        | .leave v => pure v
        | other => throw other
      modify fun s => { s with locals := outer }
      return v

def builtIn : (fuel : Nat) → BuiltIn → List Expression → Run Value
  | 0, _, _ => throw .abandon
  | fuel + 1, f, args => do
    match f, args with
    | .length, [.value (.name r)] =>
      match ← slot r with
      | .table n | .unset (some n) => return .ofNat (← table n).entries.length
      | _ => return .ofNat (← text (← fetch (.name r))).length
    | .length, [] => return .ofNat (← recordText).length
    | .length, e :: _ => return .ofNat (← text (← evaluate fuel e)).length
    | .split, source :: .value (.name t) :: separator =>
      let r ← text (← evaluate fuel source)
      let separator ← match separator with
        | [e] => patternOf fuel e
        | _ => globalText "FS"
      let vs ← partsOf separator r
      setTable (← tableNumber t) (.ofParts vs)
      return .ofNat vs.length
    | .substitute, e :: new :: target | .substituteAll, e :: new :: target =>
      let search ← ready (← patternOf fuel e)
      let new ← text (← evaluate fuel new)
      let a ← match target with
        | [.value p] => some <$> resolve fuel p
        | [_] => pure none
        | _ => pure (some (Address.field 0))
      let r ← match a, target with
        | some a, _ => do text (← fetch a)
        | none, e :: _ => do text (← evaluate fuel e)
        | none, [] => pure []
      let (result, count) := substituted search (f = .substituteAll) new r
      -- A place that is not changed is not written either, so its number stays one.
      if count ≠ 0 then
        if let some a := a then put a (.text result)
      return .ofNat count
    | .matching, [a, e] =>
      let r ← text (← evaluate fuel a)
      let search ← ready (← patternOf fuel e)
      let (start, length) : Float × Float := match search.first? r with
        | some (a, b) => (Float.ofNat (a.index + 1), Float.ofNat (b.index - a.index))
        | none => (0, -1)
      setGlobal "RSTART" (.number start)
      setGlobal "RLENGTH" (.number length)
      return .number start
    | f, args =>
      let vs ← evaluateAll fuel args
      match f.function?, f, vs with
      | some g, _, v :: _ => return .number (g v.toNumber)
      | none, .arctangent, [a, b] => return .number (Float.atan2 a.toNumber b.toNumber)
      | none, .index, [a, b] =>
        let r ← text a
        return .ofNat (placeOf (← text b) 1 r)
      | none, .substring, a :: start :: count =>
        return .text (part (← text a) start.toNumber (count.head?.map Value.toNumber))
      | none, .lower, v :: _ => return .text ((← text v).map Char.toLower)
      | none, .upper, v :: _ => return .text ((← text v).map Char.toUpper)
      | none, .sprintf, format :: others =>
        let r ← text format
        let (pieces, mistake) := layOut (← globalText "CONVFMT") r (r.length + 1) r { args := others }
        if let some m := mistake then fault m.message
        return .text pieces.flatten
      | none, .system, v :: _ => return .ofNat (← system (← text v))
      | none, .close, v :: _ =>
        match ← closeNamed (← text v) with
        | some n => return .ofNat n
        | none => return .number (-1)
      | none, .flush, _ =>
        tool Tool.flush
        return .number 0
      | none, .random, _ =>
        let next := ((← get).seed * 6364136223846793005 + 1442695040888963407) % Raw.wordLimit
        modify fun s => { s with seed := next }
        return .number (Float.ofNat (next / 4294967296) / 4294967296)
      | none, .seed, _ =>
        let old := (← get).seedValue
        let new := vs.head?.getD (.ofNat 1700000000)
        modify fun s => { s with seed := (clamped new.toNumber).natAbs, seedValue := new }
        return old
      | _, _, _ => return .unset

def outputFor : (fuel : Nat) → Option (Target × Expression) → Run (Raw → Run Unit)
  | 0, _ => throw .abandon
  | _, none => return fun r => tool (Tool.say r)
  | fuel + 1, some (target, e) => do
    let name ← text (← evaluate fuel e)
    return printTo target name

def carryOut : (fuel : Nat) → Statement → Run Unit
  | 0, _ => throw .abandon
  | fuel + 1, s => do
    match s with
    | .run e => discard <| evaluate fuel e
    | .print args target =>
      let mut texts : List Raw := []
      for v in ← evaluateAll fuel args do
        let r ← match v with
          | .number x => do pure (numberText (← globalText "OFMT") x)
          | v => text v
        texts := r :: texts
      let line ← if args.isEmpty then recordText else do pure (Raw.join (← globalText "OFS") texts.reverse)
      let output ← outputFor fuel target
      output (line ++ (← globalText "ORS"))
    | .printf args target =>
      let vs ← evaluateAll fuel args
      laidOutBy (← outputFor fuel target) vs
    | .block body => carryOutAll fuel body
    | .branch c a b => if (← evaluate fuel c).isTrue then carryOut fuel a else carryOut fuel b
    | .loop bodyFirst c step body => turn fuel bodyFirst c step body
    | .each name t body =>
      let n ← tableNumber t
      let known ← table n
      -- The keys are those from before the loop, whatever the body does to the table.
      setTable n known.spelled
      eachKey fuel name known.keys body
    | .delete name keys =>
      let n ← tableNumber name
      if keys.isEmpty then setTable n {}
      else
        let (key, _) ← keyOf fuel keys
        setTable n ((← table n).erase key)
    | .next => throw .next
    | .nextFile => throw .nextFile
    | .exit e =>
      if let some e := e then
        let v ← evaluate fuel e
        modify fun s => { s with status := (clamped v.toNumber % 256).toNat }
      throw .exit
    | .leave e =>
      let v ← match e with
        | some e => evaluate fuel e
        | none => pure .unset
      throw (.leave v)
    | .stop => throw .stop
    | .again => throw .again

def carryOutAll : (fuel : Nat) → List Statement → Run Unit
  | 0, _ => throw .abandon
  | _, [] => return ()
  | fuel + 1, s :: ss => do
    carryOut fuel s
    carryOutAll fuel ss

/-- Carries out the body of a loop; the answer tells whether the loop goes on. -/
def inLoop : (fuel : Nat) → Statement → Run Bool
  | 0, _ => throw .abandon
  | fuel + 1, body =>
    tryCatch (do
      carryOut fuel body
      pure true) fun
      | .again => pure true
      | .stop => pure false
      | other => throw other

/-- Turns of a loop from one of them on. -/
def turn : (fuel : Nat) → (bodyFirst : Bool) → Option Expression → Option Expression → Statement → Run Unit
  | 0, _, _, _, _ => throw .abandon
  | fuel + 1, bodyFirst, c, step, body => do
    let goesOn ← match bodyFirst, c with
      | false, some c => do pure (← evaluate fuel c).isTrue
      | _, _ => pure true
    if goesOn then
      if ← inLoop fuel body then
        if let some e := step then discard <| evaluate fuel e
        turn fuel false c step body

def eachKey : (fuel : Nat) → Raw → List Raw → Statement → Run Unit
  | 0, _, _, _ => throw .abandon
  | _, _, [], _ => return ()
  | fuel + 1, name, key :: keys, body => do
    put (.name name) (.text key)
    if ← inLoop fuel body then eachKey fuel name keys body

end

/-! ## Rules -/

def apply (r : Rule) : Run Unit := do
  match r.body with
  | some body => carryOutAll Tool.manyTurns body
  | none => carryOut Tool.manyTurns (.print [] none)

/-- Carries out the rules for moments of one kind. -/
def applyAt (isMeant : Trigger → Bool) : Run Unit := do
  for r in (← get).script.rules do
    if isMeant r.trigger then apply r

def holds (e : Expression) : Run Bool := do return (← evaluate Tool.manyTurns e).isTrue

def applyAll : Run Unit := do
  for (r, i) in (← get).script.rules.zipIdx do
    match r.trigger with
    | .start | .finish => pure ()
    | .always => apply r
    | .when e => if ← holds e then apply r
    | .between first last =>
      -- The record that opens a range may close it as well.
      let isOpen ← if (← get).openRules.contains i then pure true else holds first
      if isOpen then
        let isOver ← holds last
        modify fun s =>
          let others := s.openRules.filter (· ≠ i)
          { s with openRules := if isOver then others else i :: others }
        apply r

/-- Applies the rules to records up to the last one. -/
def work : (turns : Nat) → Run Unit
  | 0 => return ()
  | turns + 1 => do
    match ← nextOfInputs Tool.manyTurns with
    | none => return ()
    | some r =>
      setRecord (.input r)
      tryCatch applyAll fun
        | .next => modify fun s => { s with locals := [] }
        | .nextFile => do
          if let some s := (← get).input then tool (Tool.closeInput s.descriptor)
          modify fun s => { s with input := none, locals := [] }
        | other => throw other
      work turns

/-- Runs the script from the first moment to the last. -/
def whole : Run Unit := do
  let triggers := (← get).script.rules.map Rule.trigger
  let isStart (t : Trigger) : Bool := match t with
    | .start => true
    | _ => false
  let isFinish (t : Trigger) : Bool := match t with
    | .finish => true
    | _ => false
  tryCatch (do
    applyAt isStart
    -- Rules for the start alone need no records, and none are read.
    if triggers.any (!isStart ·) then work Tool.manyTurns) fun
    | .exit => pure ()
    | other => throw other
  applyAt isFinish

end Run

end Buildwatch.Machine.Rules
