import Templating.Page.Machine

/-! The meaning of pages. Expressions and statements are run by recursion on the tree; a call of a
macro, a repeated loop and an embedded page start a tree anew, so they go through `Calls`, whose
depth is bounded. -/

namespace Templating.Page

/-- What can start a tree anew. -/
structure Calls where
  /-- Calls a macro at a line. -/
  macroCall : (line : Nat) → MacroRecord → List Value → Rendering Value
  /-- Runs the body of a loop for other items, inside `depth` loops. -/
  again : (line : Nat) → (depth : Nat) → Target → List Stmt → List Value → Rendering Unit
  /-- Runs the page inside itself. -/
  embed : Rendering Unit

namespace Rendering

def callValue (calls : Calls) (setting : Setting) (line : Nat) (callee : Value)
    (arguments : List Value) : Rendering Value := do
  match callee with
  | .function name =>
    match setting.functions.get? name with
    | some f => lift setting line (← callRegistered name f arguments)
    | none =>
      match builtin? name with
      | some f => lift setting line (f arguments)
      | none => failAt setting line .invalid
  | .abort => lift setting line (← callAbort arguments)
  | .template id _ _ =>
    match (← get).macros[id]? with
    | some record => calls.macroCall line record arguments
    | none => failAt setting line .invalid
  | _ => failAt setting line .invalid

/-- The loop that a call of `loop` repeats. -/
def repeatable? (machine : Machine) : Option (Target × List Stmt × Nat) := do
  let frame ← machine.frames.find? (·.loop?.isSome)
  let info ← frame.loop?
  let (target, body) ← frame.repeats?
  some (target, body, info.depth)

/-- Repeats the innermost loop for the items of the only argument. -/
def callLoop (calls : Calls) (setting : Setting) (line : Nat) (arguments : List Value) :
    Rendering Unit := do
  match arguments with
  | [argument] =>
    match repeatable? (← get) with
    | some (target, body, depth) =>
      let items ← lift setting line argument.toItems
      calls.again line (depth + 1) target body items
    | none => failAt setting line .invalid
  | _ => failAt setting line .invalid

def callName (calls : Calls) (setting : Setting) (line : Nat) (name : String)
    (arguments : List Value) : Rendering Value := do
  if name = "super" then failAt setting line .invalid
  else if name = "loop" then
    made setting <$> captured (callLoop calls setting line arguments)
  else
    match ← find? setting name with
    | some callee => callValue calls setting line callee arguments
    | none => failAt setting line ⟨.unknownFunction, none⟩

/-- Calls the method of a value that one of its fields is. -/
def callMethod (calls : Calls) (setting : Setting) (line : Nat) (subject : Value) (name : String)
    (arguments : List Value) : Rendering Value := do
  match subject with
  | .map _ _ =>
    match subject.field? name with
    | some callee => callValue calls setting line callee arguments
    | none => failAt setting line ⟨.unknownMethod, none⟩
  | .loop info _ _ =>
    if name = "cycle" then
      match arguments[info.before % arguments.length]? with
      | some value => pure value
      | none => failAt setting line .invalid
    else failAt setting line ⟨.unknownMethod, none⟩
  | _ => failAt setting line ⟨.unknownMethod, none⟩

/-- Whether a value counts as true at a line; a missing one is a fault. -/
def truth (setting : Setting) (line : Nat) (value : Value) : Rendering Bool :=
  lift setting line value.truth

/-- A part that a value may lack: where the value is undefined itself, that is a fault. -/
def partOf (setting : Setting) (line : Nat) (subject : Value) (part : Option Value) :
    Rendering Value :=
  match part with
  | some value => pure value
  | none => if subject.isUndefined then failAt setting line .undefined else pure .missing

def binaryValue (op : BinaryOp) (x y : Value) : Outcome Value :=
  match op with
  | .add => Value.orInvalid (x.add? y)
  | .sub => Value.orInvalid (x.sub? y)
  | .mul => Value.orInvalid (x.mul? y)
  | .div => Value.orInvalid (x.div? y)
  | .floorDiv => Value.orInvalid (x.floorDiv? y)
  | .rem => Value.orInvalid (x.rem? y)
  | .pow => Value.orInvalid (x.pow? y)
  | .concat => if x.isMissing || y.isMissing then .error .undefined else .ok (x.concat y)

/-- Whether a comparison of two values holds; none of them may be missing. -/
def comparisonHolds (comparison : Comparison) (x y : Value) : Outcome Bool :=
  if x.isMissing || y.isMissing then .error .undefined
  else
    match comparison with
    | .eq => .ok (x.equal y)
    | .ne => .ok !(x.equal y)
    | .lt => .ok (x.order y == .lt)
    | .le => .ok (x.order y != .gt)
    | .gt => .ok (x.order y == .gt)
    | .ge => .ok (x.order y != .lt)
    | .member => Value.orInvalid (y.contains? x)
    | .notMember => (Value.orInvalid (y.contains? x)).map (!·)

/-- A whole number in a slice, or `none` where the place is left out. -/
def sliceNumber (value : Value) : Outcome (Option Int) :=
  match value with
  | .nothing => .ok none
  | value => (Value.orInvalid value.toInt64?).map some

/-- The items of a slice; one with a negative step runs backwards. -/
def sliceItems (start : Int) (stop : Option Int) (step : Int) (items : List α) : List α :=
  if 0 < step then Value.slice start stop step.natAbs items
  else Value.sliceBack start stop step.natAbs items

def sliceValue (subject start stop step : Value) : Outcome Value := do
  if subject.isUndefined then throw .undefined
  let start := (← sliceNumber start).getD 0
  let stop ← sliceNumber stop
  let step := (← sliceNumber step).getD 1
  if step = 0 then throw .invalid
  match subject with
  | .str text _ => pure (.text (String.ofList (sliceItems start stop step text.toList)))
  | .nothing => pure (.seq [])
  | .list _ items => pure (.list true (sliceItems start stop step items))
  | _ => throw .invalid

def applyFilter (setting : Setting) (line : Nat) (name : String) (value : Value)
    (arguments : List Value) : Rendering Value :=
  match filter? setting.escapes name with
  | some filter => lift setting line (filter value arguments)
  | none => failAt setting line ⟨.unknownFilter, none⟩

def applyTest (setting : Setting) (line : Nat) (name : String) (value : Value)
    (arguments : List Value) : Rendering Value :=
  match test? name with
  | some test => do
    lift setting line (Value.noArguments arguments)
    pure (.bool (test value))
  | none => failAt setting line ⟨.unknownTest, none⟩

/-- The values of arguments by place, those that are spread as their items. -/
def spreadPlaces : List (Bool × Value) → Outcome (List Value)
  | [] => .ok []
  | (spread, value) :: rest => do
    let here ← if spread then Value.orInvalid value.items? else .ok [value]
    pure (here ++ (← spreadPlaces rest))

/-- The entries of named arguments, those without a name from the entries of a map. -/
def spreadNames : List (Option String × Value) → Outcome (List (Value × Value))
  | [] => .ok []
  | (name?, value) :: rest => do
    let here ← match name?, value with
      | some name, value => .ok [(.text name, value)]
      | none, .map _ entries => .ok entries
      | none, .list _ items => .ok (items.zipIdx.map fun (item, i) => (.count i, item))
      | none, _ => .error .invalid
    pure (here ++ (← spreadNames rest))

/-- The values of arguments, with the named ones as one map at the end. -/
def withKeywords (places : List (Bool × Value)) (named : List (Option String × Value)) :
    Outcome (List Value) := do
  let entries ← spreadNames named
  let values ← spreadPlaces places
  pure (if named.isEmpty then values else values ++ [Value.mapOf true entries])

mutual

def eval (calls : Calls) (setting : Setting) : Expr → Rendering Value
  | .const _ value => pure value
  | .list _ items => .seq <$> evalItems calls setting items
  | .map _ entries => .mapOf false <$> evalEntries calls setting entries
  | .var _ name => do pure ((← find? setting name).getD .missing)
  | .unary line op operand => do
    let value ← eval calls setting operand
    match op with
    | .not => do pure (.bool !(← truth setting (operand.lineAfter line) value))
    | .neg => lift setting line (Value.orInvalid value.neg?)
  | .binary line op left right => do
    let x ← eval calls setting left
    let y ← eval calls setting right
    lift setting (right.lineAfter (left.lineAfter line)) (binaryValue op x y)
  | .chain line first rest => do
    let x ← eval calls setting first
    .bool <$> evalLinks calls setting (first.lineAfter line) x rest
  | .both line left right => do
    let x ← eval calls setting left
    if ← truth setting (left.lineAfter line) x then eval calls setting right else pure x
  | .either line left right => do
    let x ← eval calls setting left
    if ← truth setting (left.lineAfter line) x then pure x else eval calls setting right
  | .choice line condition yes no => do
    let value ← eval calls setting condition
    if ← truth setting (condition.lineAfter line) value then eval calls setting yes
    else evalOption calls setting (.undefined true) no
  | .field line subject name => do
    let value ← eval calls setting subject
    partOf setting (subject.lineAfter line) value (value.field? name)
  | .item line subject key => do
    let value ← eval calls setting subject
    let place ← eval calls setting key
    partOf setting (key.lineAfter (subject.lineAfter line)) value (value.item? place)
  | .slice line subject start stop step => do
    let value ← eval calls setting subject
    let first ← evalOption calls setting (.count 0) start
    let last ← evalOption calls setting .nothing stop
    let every ← evalOption calls setting (.count 1) step
    lift setting
      (optionLineAfter (optionLineAfter (optionLineAfter (subject.lineAfter line) start) stop) step)
      (sliceValue value first last every)
  | .call line (.var _ name) arguments => do
    let here := argumentLinesAfter line arguments
    let places ← evalPlaces calls setting arguments
    let named ← evalNamed calls setting arguments
    callName calls setting here name (← lift setting here (withKeywords places named))
  | .call line (.field _ (.var _ "self") _) _ => failAt setting line ⟨.unknownBlock, none⟩
  | .call _ (.field own subject name) arguments => do
    let value ← eval calls setting subject
    let here := argumentLinesAfter (subject.lineAfter own) arguments
    let places ← evalPlaces calls setting arguments
    let named ← evalNamed calls setting arguments
    callMethod calls setting here value name (← lift setting here (withKeywords places named))
  | .call line callee arguments => do
    let value ← eval calls setting callee
    let here := argumentLinesAfter (callee.lineAfter line) arguments
    let places ← evalPlaces calls setting arguments
    let named ← evalNamed calls setting arguments
    callValue calls setting here value (← lift setting here (withKeywords places named))
  | .filter line name subject arguments => do
    let value ← eval calls setting subject
    let here := argumentLinesAfter (subject.lineAfter line) arguments
    let places ← evalPlaces calls setting arguments
    let named ← evalNamed calls setting arguments
    applyFilter setting here name value (← lift setting here (withKeywords places named))
  | .test line name subject arguments => do
    let value ← eval calls setting subject
    let here := argumentLinesAfter (subject.lineAfter line) arguments
    let places ← evalPlaces calls setting arguments
    let named ← evalNamed calls setting arguments
    applyTest setting here name value (← lift setting here (withKeywords places named))
termination_by structural e => e

def evalItems (calls : Calls) (setting : Setting) : List Expr → Rendering (List Value)
  | [] => pure []
  | item :: rest => do
    let value ← eval calls setting item
    pure (value :: (← evalItems calls setting rest))
termination_by structural items => items

def evalEntries (calls : Calls) (setting : Setting) :
    List (Expr × Expr) → Rendering (List (Value × Value))
  | [] => pure []
  | (key, value) :: rest => do
    let key ← eval calls setting key
    let value ← eval calls setting value
    pure ((key, value) :: (← evalEntries calls setting rest))
termination_by structural entries => entries

def evalOption (calls : Calls) (setting : Setting) (default_ : Value) :
    Option Expr → Rendering Value
  | none => pure default_
  | some e => eval calls setting e
termination_by structural e => e

/-- Whether a chain of comparisons holds after the value of an operand: each one is tried only if
those before it hold. -/
def evalLinks (calls : Calls) (setting : Setting) (line : Nat) (x : Value) :
    List (Comparison × Expr) → Rendering Bool
  | [] => pure true
  | (comparison, operand) :: rest => do
    let y ← eval calls setting operand
    let here := operand.lineAfter line
    if ← lift setting here (comparisonHolds comparison x y) then
      evalLinks calls setting here y rest
    else pure false
termination_by structural links => links

/-- The values of the arguments by place in order, and whether each is spread. -/
def evalPlaces (calls : Calls) (setting : Setting) :
    List Argument → Rendering (List (Bool × Value))
  | [] => pure []
  | argument :: rest => do
    let place? ← evalPlace calls setting argument
    pure (place?.toList ++ (← evalPlaces calls setting rest))
termination_by structural arguments => arguments

/-- The value of an argument by place, and whether it is spread. -/
def evalPlace (calls : Calls) (setting : Setting) :
    Argument → Rendering (Option (Bool × Value))
  | .place value => do pure (some (false, ← eval calls setting value))
  | .spread value => do pure (some (true, ← eval calls setting value))
  | .named _ _ => pure none
  | .spreadNamed _ => pure none
termination_by structural argument => argument

/-- The values of the named arguments in order, those of spread ones without a name. -/
def evalNamed (calls : Calls) (setting : Setting) :
    List Argument → Rendering (List (Option String × Value))
  | [] => pure []
  | argument :: rest => do
    let named? ← evalName calls setting argument
    pure (named?.toList ++ (← evalNamed calls setting rest))
termination_by structural arguments => arguments

def evalName (calls : Calls) (setting : Setting) :
    Argument → Rendering (Option (Option String × Value))
  | .named name value => do pure (some (some name, ← eval calls setting value))
  | .spreadNamed value => do pure (some (none, ← eval calls setting value))
  | .place _ => pure none
  | .spread _ => pure none
termination_by structural argument => argument

end

mutual

def bindTarget (calls : Calls) (setting : Setting) : Target → Value → Rendering Unit
  | .name name, value => assign name value
  | .field line subject _, _ => do
    let _ ← eval calls setting subject
    failAt setting (subject.lineAfter line) .invalid
  | .list line targets, value => do
    let items : Option (List Value) := match value with
      | .list _ items => some items
      | .map _ entries => some (entries.map (·.1))
      | _ => none
    match items with
    | some items =>
      if items.length = targets.length then bindTargets calls setting targets items
      else failAt setting line ⟨.cannotUnpack, none⟩
    | none => failAt setting line ⟨.cannotUnpack, none⟩
termination_by structural target => target

def bindTargets (calls : Calls) (setting : Setting) :
    List Target → List Value → Rendering Unit
  | target :: targets, value :: values => do
    bindTarget calls setting target value
    bindTargets calls setting targets values
  | _, _ => pure ()
termination_by structural targets => targets

end

/-- The text of a printed value, which must not be missing. -/
def printed (setting : Setting) (line : Nat) (value : Value) : Rendering Unit :=
  if value.isMissing then failAt setting line .undefined
  else write (if setting.escapes then value.markup else value.display)

/-- The result of the filters of a block, in order. -/
def applyFilters (calls : Calls) (setting : Setting) :
    List BlockFilter → Value → Rendering Value
  | [], value => pure value
  | filter :: rest, value => do
    let here := argumentLinesAfter filter.line filter.arguments
    let places ← evalPlaces calls setting filter.arguments
    let named ← evalNamed calls setting filter.arguments
    let result ← applyFilter setting here filter.name value
      (← lift setting here (withKeywords places named))
    applyFilters calls setting rest result

/-- The line after the filters of a block. -/
def filtersLineAfter (line : Nat) (filters : List BlockFilter) : Nat :=
  filters.foldl (fun _ filter => argumentLinesAfter filter.line filter.arguments) line

/-- Keeps the items that a condition holds for, when each is bound to the target. -/
def chosen (calls : Calls) (setting : Setting) (line : Nat) (target : Target)
    (condition : Expr) : List Value → Rendering (List Value)
  | [] => pure []
  | item :: rest => do
    bindTarget calls setting target item
    let value ← eval calls setting condition
    let keep ← truth setting (condition.lineAfter line) value
    let others ← chosen calls setting line target condition rest
    pure (if keep then item :: others else others)

/-- Runs a part of a page for each item of a loop of `length` items, after `before` items of which
`previous` is the last. What one round binds is gone in the next. -/
def eachItem (part : Value → Rendering Unit) (depth length : Nat) :
    (before : Nat) → (previous : Value) → List Value → Rendering Unit
  | _, _, [] => pure ()
  | before, previous, item :: rest => do
    modify fun machine =>
      match machine.frames with
      | frame :: frames =>
        let next := { frame with
          locals := [], closure? := none, loop? := some ⟨before, length, depth⟩
          neighbours := (previous, rest.headD .missing) }
        { machine with frames := next :: frames }
      | [] => machine
    part item
    eachItem part depth length (before + 1) item rest

def runLoop (setting : Setting) (line depth : Nat) (repeats? : Option (Target × List Stmt))
    (part : Value → Rendering Unit) (items : List Value) : Rendering Unit :=
  within setting line
    { plainFrame with loop? := some ⟨0, items.length, depth⟩, repeats? := repeats? }
    (eachItem part depth items.length 0 .missing items)

/-- The depth of a loop: only loops that may be repeated count. -/
def loopDepth (machine : Machine) : Nat :=
  match repeatable? machine with
  | some (_, _, depth) => depth + 1
  | none => 0

def bindAll (calls : Calls) (setting : Setting) : List (Target × Expr) → Rendering Unit
  | [] => pure ()
  | (target, value) :: rest => do
    let value ← eval calls setting value
    bindTarget calls setting target value
    bindAll calls setting rest

def pageNames (value : Value) : List Value :=
  match value with
  | .list _ items => items
  | .map _ entries => entries.map (·.1)
  | value => [value]

/-- Embeds the first page that there is. The only page there is is this one. -/
def embedFirst (calls : Calls) (setting : Setting) (line : Nat) (optional missed : Bool) :
    List Value → Rendering Unit
  | [] =>
    if missed && !optional then failAt setting line ⟨.templateNotFound, none⟩ else pure ()
  | value :: rest =>
    match value.str? with
    | none => failAt setting line .invalid
    | some name =>
      if name = setting.label then do
        let machine ← get
        set { machine with outer := machine.outer + embedCost }
        checkDepth setting line
        let (result, after) := (calls.embed.run).run (← get)
        set after
        match result with
        | .ok () => modify fun now => { now with outer := machine.outer }
        | .error _ => failAt setting line ⟨.badInclude, none⟩
      else embedFirst calls setting line optional true rest

mutual

def exec (calls : Calls) (setting : Setting) : Stmt → Rendering Unit
  | .text text => write text
  | .print _ (.call line (.var _ "loop") [.place argument]) => do
    let value ← eval calls setting argument
    callLoop calls setting (argument.lineAfter line) [value]
  | .print line value => do
    let result ← eval calls setting value
    printed setting (value.lineAfter line) result
  | .loop line target items condition recursive body otherwise => do
    let subject ← eval calls setting items
    let here := items.lineAfter line
    let all ← lift setting here subject.toItems
    let kept ← match condition with
      | none => pure all
      | some condition =>
        within setting here plainFrame (chosen calls setting here target condition all)
    let depth := loopDepth (← get)
    runLoop setting here depth (if recursive then some (target, body) else none)
      (fun item => do
        bindTarget calls setting target item
        execAll calls setting body)
      kept
    if kept.isEmpty then execAll calls setting otherwise else pure ()
  | .branch line condition yes no => do
    let value ← eval calls setting condition
    if ← truth setting (condition.lineAfter line) value then execAll calls setting yes
    else execAll calls setting no
  | .assign _ target value => do
    let value ← eval calls setting value
    bindTarget calls setting target value
  | .capture _ target filters body => do
    let text ← captured (execAll calls setting body)
    let value ← applyFilters calls setting filters (made setting text)
    bindTarget calls setting target value
  | .scope line bindings body =>
    within setting line plainFrame do
      bindAll calls setting bindings
      execAll calls setting body
  | .filtered line filters body => do
    let text ← captured (execAll calls setting body)
    let value ← applyFilters calls setting filters (made setting text)
    printed setting (filtersLineAfter line filters) value
  | .define _ name parameters defaults body => do
    let closure ← closureOf
    let id ← addMacro ⟨name, parameters, defaults, body, closure⟩
    assign name (.template id name parameters)
  | .embed line page optional => do
    let value ← eval calls setting page
    embedFirst calls setting line optional false (pageNames value)
  | .inherit line page => do
    let value ← eval calls setting page
    match value.str? with
    | none => failAt setting line .invalid
    | some name =>
      if name = setting.label then failAt setting line .invalid
      else failAt setting line ⟨.templateNotFound, none⟩
termination_by structural statement => statement

def execAll (calls : Calls) (setting : Setting) : List Stmt → Rendering Unit
  | [] => pure ()
  | statement :: rest => do
    exec calls setting statement
    execAll calls setting rest
termination_by structural statements => statements

end

/-- The keyword arguments at the end of arguments, and those before them. -/
def splitKeywords (arguments : List Value) : List Value × List (Value × Value) :=
  match arguments.getLast? with
  | some (.map true entries) => (arguments.dropLast, entries)
  | _ => (arguments, [])

/-- The values of a macro's parameters: by place, by name, or undefined. -/
def parameterValues (parameters : List String) (arguments : List Value) :
    Outcome (List (String × Value)) := do
  let (places, named) := splitKeywords arguments
  if parameters.length < places.length then throw .tooMany
  let bound ← parameters.zipIdx.mapM fun (name, i) =>
    match places[i]?, Value.valueAt? (.text name) named with
    | some _, some _ => Except.error Trouble.tooMany
    | some value, none => .ok (name, value)
    | none, some value => .ok (name, value)
    | none, none => .ok (name, Value.missing)
  if named.all fun (key, _) => (key.str?.map (parameters.contains ·)).getD true then pure bound
  else throw .tooMany

/-- Binds parameters, the last one first; each undefined one gets its default, if it has one. -/
def bindParameters (calls : Calls) (setting : Setting) :
    List (String × Value) → List Expr → Rendering Unit
  | [], _ => pure ()
  | (name, value) :: rest, [] => do
    assign name value
    bindParameters calls setting rest []
  | (name, value) :: rest, default_ :: defaults => do
    let value ← if value.isUndefined then eval calls setting default_ else pure value
    assign name value
    bindParameters calls setting rest defaults

/-- Calls a macro: its body runs in a scope that sees what the macro closes over. -/
def runMacro (calls : Calls) (setting : Setting) (line : Nat) (record : MacroRecord)
    (arguments : List Value) : Rendering Value := do
  let bound ← lift setting line (parameterValues record.parameters arguments)
  let machine ← get
  set { machine with
    frames := [{ plainFrame with base := .closure record.closure }]
    outer := depth machine + macroCost }
  checkDepth setting line
  let text ← captured do
    bindParameters calls setting bound.reverse record.defaults.reverse
    execAll calls setting record.body
  modify fun after => { after with frames := machine.frames, outer := machine.outer }
  pure (made setting text)

/-- The calls of a page, nested at most `fuel` deep. -/
def callsOf (setting : Setting) (page : List Stmt) : (fuel : Nat) → Calls
  | 0 =>
    { macroCall := fun line _ _ => failAt setting line .invalid
      again := fun line _ _ _ _ => failAt setting line .invalid
      embed := failAt setting 1 .invalid }
  | fuel + 1 =>
    let calls := callsOf setting page fuel
    { macroCall := fun line record arguments => runMacro calls setting line record arguments
      again := fun line depth target body items =>
        runLoop setting line depth (some (target, body))
          (fun item => do
            bindTarget calls setting target item
            execAll calls setting body)
          items
      embed := execAll calls setting page }

end Rendering

/-- The variables that the data of a context gives a page: the fields of an object, the data itself
under a name of its own unless a field has that name, and the function that marks the signal. -/
def rootVariables (data : Json) (hasSignal : Bool) : Variables :=
  let fields := match data with
    | .obj fields => fields.map fun (name, value) => (name, Value.ofJson value)
    | _ => []
  let whole := if (fields.lookup "data").isSome then [] else [("data", Value.ofJson data)]
  (if hasSignal then [("abort", Value.abort)] else []) ++ fields ++ whole

def run (setting : Setting) (page : List Stmt) (data : Json) (hasSignal : Bool) : Run :=
  let frame : Frame :=
    { Rendering.plainFrame with base := .given (rootVariables data hasSignal) }
  let machine : Machine := ⟨[frame], 0, [], [], [], []⟩
  let calls := Rendering.callsOf setting page (Rendering.deepest + 1)
  let (result, machine) := ((Rendering.execAll calls setting page).run).run machine
  ⟨machine.steps.reverse, result.mapError PageFault.toFault⟩

end Templating.Page
