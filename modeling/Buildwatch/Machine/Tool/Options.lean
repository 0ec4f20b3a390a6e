import Buildwatch.Machine.Raw

/-!
# Options of tools

How tools read their arguments: letters that may be joined, long names that may be cut
short, values behind them, and operands anywhere in between.
-/

namespace Buildwatch.Machine

/-! ## What a tool knows -/

inductive Arity
  | without
  | needed
  /-- The value has to be in the same argument. -/
  | possible
  deriving DecidableEq

/-- A long name, and the option that it is a name for. -/
structure LongName where
  name : Raw
  arity : Arity
  key : String

/-- The options that a tool knows. A letter with a colon needs a value, one with two may have
a value. The long names stand with blanks between them, with the same colons, and with the
option that they mean behind an equals sign if there is another name for it. -/
structure Options where
  letters : String
  long : String := ""
  /-- Whether options may follow operands. -/
  permutes : Bool := true

namespace Options

/-- The arity that a number of colons stands for. -/
def arityOf : Raw → Arity
  | ':' :: ':' :: _ => .possible
  | ':' :: _ => .needed
  | _ => .without

def longName (word : Raw) : LongName :=
  let name := word.takeWhile fun c => c ≠ ':' && c ≠ '='
  let rest := word.drop name.length
  let key := (rest.dropWhile (· = ':')).drop 1
  { name, arity := arityOf rest, key := String.ofList (if key = [] then name else key) }

def longNames (o : Options) : List LongName :=
  (Raw.words o.long.toList ++ [Raw.ascii "help", Raw.ascii "version"]).map longName

/-- Whether a letter is an option, and its arity. -/
def letter? (o : Options) (c : Char) : Option Arity :=
  match o.letters.toList.dropWhile (· ≠ c) with
  | _ :: rest => if c = ':' then none else some (arityOf rest)
  | [] => none

end Options

/-! ## What a tool is given -/

structure Call where
  options : List (String × Option Raw) := []
  operands : List Raw := []
  mistake : Option Raw := none

namespace Call

def has (c : Call) (key : String) : Bool := c.options.any (·.1 = key)

def value? (c : Call) (key : String) : Option Raw :=
  ((c.options.filter (·.1 = key)).getLast?).bind (·.2)

def values (c : Call) (key : String) : List Raw :=
  c.options.filterMap fun (k, v) => if k = key then some (v.getD []) else none

/-- Which of some options is given last. -/
def last? (c : Call) (keys : List String) : Option String :=
  (c.options.filter fun (k, _) => keys.contains k).getLast?.map (·.1)

def withOption (key : String) (value : Option Raw) (c : Call) : Call :=
  { c with options := (key, value) :: c.options }

end Call

namespace Options

/-- The long name that is meant by its beginning. -/
def findLong (o : Options) (given whole : Raw) : Except Raw LongName :=
  let names := o.longNames
  match names.find? (·.name = given) with
  | some l => .ok l
  | none =>
    match names.filter (given.isPrefixOf ·.name) with
    | [] => .error (Raw.ascii "unrecognized option '--" ++ whole ++ ['\''])
    | l :: ls =>
      if ls.all fun k => k.key = l.key && k.arity = l.arity then .ok l
      else
        .error (Raw.ascii "option '--" ++ whole ++ Raw.ascii "' is ambiguous; possibilities:" ++
          (l :: ls).flatMap fun k => Raw.ascii " '--" ++ k.name ++ ['\''])

/-- Reads arguments. In an argument with several letters the rest of it is read again as an
argument of its own. -/
def read (o : Options) : (fuel : Nat) → List Raw → Call
  | 0, args => { operands := args }
  | _, [] => {}
  | fuel + 1, a :: args =>
    match a with
    | ['-', '-'] => { operands := args }
    | '-' :: '-' :: whole =>
      let given := whole.takeWhile (· ≠ '=')
      let value := if given.length < whole.length then some (whole.drop (given.length + 1)) else none
      match o.findLong given whole with
      | .error reason => { mistake := some reason }
      | .ok l =>
        match l.arity, value, args with
        | .without, some _, _ =>
          { mistake := some (Raw.ascii "option '--" ++ l.name ++ Raw.ascii "' doesn't allow an argument") }
        | .needed, none, [] =>
          { mistake := some (Raw.ascii "option '--" ++ l.name ++ Raw.ascii "' requires an argument") }
        | .needed, none, v :: args => (read o fuel args).withOption l.key (some v)
        | _, value, args => (read o fuel args).withOption l.key value
    | '-' :: c :: r =>
      let key := String.singleton c
      match o.letter? c, r, args with
      | none, _, _ => { mistake := some (Raw.ascii "invalid option -- '" ++ [c, '\'']) }
      | some .without, [], args => (read o fuel args).withOption key none
      | some .without, '-' :: _, _ =>
        { options := [(key, none)], mistake := some (Raw.ascii "invalid option -- '-'") }
      | some .without, r, args => (read o fuel (('-' :: r) :: args)).withOption key none
      | some .possible, r, args => (read o fuel args).withOption key (if r = [] then none else some r)
      | some .needed, [], v :: args => (read o fuel args).withOption key (some v)
      | some .needed, [], [] =>
        { mistake := some (Raw.ascii "option requires an argument -- '" ++ [c, '\'']) }
      | some .needed, r, args => (read o fuel args).withOption key (some r)
    | a =>
      if o.permutes then
        let c := read o fuel args
        { c with operands := a :: c.operands }
      else { operands := a :: args }

/-- The call that arguments make. -/
def call (o : Options) (args : List Raw) : Call :=
  o.read (Raw.total (args.map (·.length + 1)) + 1) args

end Options

end Buildwatch.Machine
