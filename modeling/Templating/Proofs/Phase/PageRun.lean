import Templating.Proofs.Phase.PageValue
import Templating.Proofs.Phase.Writes

/-! What a page writes, and how its run fails: whatever an expression or a statement of the page does,
its steps write texts, and its faults are those of an execution. By induction on the trees for calls
that are so already, and then on the depth of the calls. -/

namespace Templating.Page

namespace Rendering

/-- A computation that writes only texts and fails only in its execution. -/
abbrev Sound {α : Type} (part : Rendering α) : Prop :=
  Keeps (fun machine : Machine => Texts machine.steps)
    (fun fault : PageFault => fault.kind.isExecution = true) part

section Parts

variable {α : Type} {part : Rendering α} (setting : Setting) (line : Nat)

theorem sound_failAt {trouble : Trouble} (h : trouble.kind.isExecution = true) :
    Sound (failAt setting line trouble : Rendering α) := Keeps.throw h

theorem sound_lift {outcome : Outcome α} (h : OfRender outcome) :
    Sound (lift setting line outcome) := by
  cases outcome with
  | ok value => exact Keeps.pure value
  | error trouble => exact sound_failAt setting line (h trouble rfl)

theorem sound_set {machine : Machine} (texts : Texts machine.steps) :
    Sound (set machine : Rendering PUnit) := Keeps.set texts

/-- A change of the machine that leaves the steps. -/
theorem sound_modify {change : Machine → Machine}
    (h : ∀ machine, (change machine).steps = machine.steps) :
    Sound (modify change : Rendering PUnit) :=
  Keeps.modify fun machine texts => (h machine).symm ▸ texts

theorem sound_step {event : Event} (h : event.IsText) : Sound (step event) :=
  Keeps.modify fun _ texts => texts.cons h

theorem sound_abort (reason : String) : Sound (step (.abort reason)) := sound_step trivial

theorem sound_call (name : String) (arguments : List Json) : Sound (step (.call name arguments)) :=
  sound_step trivial

theorem sound_write (text : String) : Sound (write text) := by
  refine Keeps.modify fun machine texts => ?_
  split
  · exact texts.cons ⟨text, rfl⟩
  · exact texts

theorem sound_captured {part : Rendering Unit} (h : Sound part) : Sound (captured part) := by
  refine Keeps.bind (sound_modify fun _ => rfl) fun _ => h.bind fun _ =>
    Keeps.get_bind fun machine texts => ?_
  split
  · exact Keeps.pure _
  · exact Keeps.bind (sound_set texts) fun _ => Keeps.pure _

theorem sound_find? (name : String) : Sound (find? setting name) :=
  Keeps.get_bind fun _ _ => Keeps.pure _

theorem sound_assign (name : String) (value : Value) : Sound (assign name value) := by
  refine Keeps.modify fun machine texts => ?_
  split
  · exact texts
  · exact texts

theorem sound_checkDepth : Sound (checkDepth setting line) := by
  refine Keeps.get_bind fun machine _ => ?_
  split
  · exact sound_failAt setting line rfl
  · exact Keeps.pure _

theorem sound_within (frame : Frame) (h : Sound part) : Sound (within setting line frame part) :=
  Keeps.bind (sound_modify fun _ => rfl) fun _ => (sound_checkDepth setting line).bind fun _ =>
    h.bind fun result => Keeps.bind (sound_modify fun _ => rfl) fun _ => Keeps.pure result

theorem sound_closureOf : Sound closureOf := by
  refine Keeps.get_bind fun machine texts => ?_
  split
  · exact Keeps.pure _
  · split
    · exact Keeps.pure _
    · exact Keeps.bind (sound_set texts) fun _ => Keeps.pure _

theorem sound_addMacro (record : MacroRecord) : Sound (addMacro record) :=
  Keeps.get_bind fun _ texts => Keeps.bind (sound_set texts) fun _ => Keeps.pure _

/-- A call of a function of the registry, whose failure is an operation that fails. -/
theorem sound_callRegistered (name : String) (f : Function) (arguments : List Value) :
    Sound (callRegistered name f arguments >>= lift setting line) := by
  unfold callRegistered
  split
  · rw [pure_bind]
    exact sound_lift setting line (.error rfl)
  · next passed _ =>
    rw [bind_assoc]
    refine (sound_call name passed).bind fun _ => ?_
    cases f passed with
    | ok value =>
      rw [pure_bind]
      exact sound_lift setting line (.ok _)
    | error message =>
      rw [pure_bind]
      exact sound_lift setting line (.error rfl)

theorem sound_callAbort (arguments : List Value) :
    Sound (callAbort arguments >>= lift setting line) := by
  unfold callAbort
  split
  · next trouble given =>
    rw [pure_bind]
    exact sound_lift setting line (.error (Value.ofRender_oneArgument? arguments trouble given))
  · next argument _ =>
    split
    · next trouble worded =>
      rw [pure_bind]
      exact sound_lift setting line (.error (Value.ofRender_toText? argument trouble worded))
    · rw [bind_assoc]
      exact (sound_abort _).bind fun _ => sound_lift setting line (.ok _)

end Parts

end Rendering

/-- Calls that write only texts and have no problems of syntax. -/
structure Calls.Sound (calls : Calls) : Prop where
  macroCall : ∀ line record arguments, Rendering.Sound (calls.macroCall line record arguments)
  again : ∀ line depth target body items, Rendering.Sound (calls.again line depth target body items)
  embed : Rendering.Sound calls.embed

namespace Rendering

section Calling

variable {calls : Calls} (sound : calls.Sound) (setting : Setting) (line : Nat)

include sound

theorem sound_callValue (callee : Value) (arguments : List Value) :
    Sound (callValue calls setting line callee arguments) := by
  unfold callValue
  split
  · split
    · exact sound_callRegistered setting line _ _ _
    · split
      · next f known => exact sound_lift setting line (ofRender_builtin? known arguments)
      · exact sound_failAt setting line rfl
  · exact sound_callAbort setting line _
  · refine Keeps.get_bind fun machine _ => ?_
    split
    · exact sound.macroCall _ _ _
    · exact sound_failAt setting line rfl
  · exact sound_failAt setting line rfl

theorem sound_callLoop (arguments : List Value) : Sound (callLoop calls setting line arguments) := by
  unfold callLoop
  split
  · refine Keeps.get_bind fun machine _ => ?_
    split
    · exact (sound_lift setting line (Value.ofRender_toItems _)).bind fun _ => sound.again _ _ _ _ _
    · exact sound_failAt setting line rfl
  · exact sound_failAt setting line rfl

theorem sound_callName (name : String) (arguments : List Value) :
    Sound (callName calls setting line name arguments) := by
  unfold callName
  split
  · exact sound_failAt setting line rfl
  · split
    · exact (sound_captured (sound_callLoop sound setting line arguments)).map _
    · refine (sound_find? setting name).bind fun found => ?_
      split
      · exact sound_callValue sound setting line _ _
      · exact sound_failAt setting line rfl

theorem sound_callMethod (subject : Value) (name : String) (arguments : List Value) :
    Sound (callMethod calls setting line subject name arguments) := by
  unfold callMethod
  split
  · split
    · exact sound_callValue sound setting line _ _
    · exact sound_failAt setting line rfl
  · split
    · split
      · exact Keeps.pure _
      · exact sound_failAt setting line rfl
    · exact sound_failAt setting line rfl
  · exact sound_failAt setting line rfl

end Calling

section Operations

variable (setting : Setting) (line : Nat)

theorem sound_truth (value : Value) : Sound (truth setting line value) :=
  sound_lift setting line (Value.ofRender_truth value)

theorem sound_partOf (subject : Value) (part : Option Value) :
    Sound (partOf setting line subject part) := by
  unfold partOf
  split
  · exact Keeps.pure _
  · split
    · exact sound_failAt setting line rfl
    · exact Keeps.pure _

theorem sound_applyFilter (name : String) (value : Value) (arguments : List Value) :
    Sound (applyFilter setting line name value arguments) := by
  unfold applyFilter
  split
  · next filter known => exact sound_lift setting line (ofRender_filter? known value arguments)
  · exact sound_failAt setting line rfl

theorem sound_applyTest (name : String) (value : Value) (arguments : List Value) :
    Sound (applyTest setting line name value arguments) := by
  unfold applyTest
  split
  · exact (sound_lift setting line (Value.ofRender_noArguments arguments)).bind fun _ =>
      Keeps.pure _
  · exact sound_failAt setting line rfl

/-- What follows the arguments of a call, by place and by name. -/
theorem sound_arguments {α : Type} {places : Rendering (List (Bool × Value))}
    {named : Rendering (List (Option String × Value))} {next : List Value → Rendering α}
    (h : Sound places) (other : Sound named) (more : ∀ arguments, Sound (next arguments)) :
    Sound (do
      let places ← places
      let named ← named
      next (← lift setting line (withKeywords places named))) :=
  h.bind fun places => other.bind fun named =>
    (sound_lift setting line (ofRender_withKeywords places named)).bind more

theorem sound_printed (value : Value) : Sound (printed setting line value) := by
  unfold printed
  split
  · exact sound_failAt setting line rfl
  · exact sound_write _

end Operations

/-! ### Expressions -/

/-- A call, from its callee, what a method is called on, and its arguments. -/
theorem sound_evalCall {calls : Calls} (sound : calls.Sound) (setting : Setting) (line : Nat)
    (callee : Expr) (arguments : List Argument) (value : Sound (eval calls setting callee))
    (subject : ∀ own subject name, callee = .field own subject name →
      Sound (eval calls setting subject))
    (places : Sound (evalPlaces calls setting arguments))
    (named : Sound (evalNamed calls setting arguments)) :
    Sound (eval calls setting (.call line callee arguments)) := by
  match callee, value with
  | .var _ name, _ =>
    exact sound_arguments setting _ places named fun _ => sound_callName sound setting _ name _
  | .field own on name, _ =>
    have method : ∀ here, Sound (do
        let value ← eval calls setting on
        let places ← evalPlaces calls setting arguments
        let named ← evalNamed calls setting arguments
        callMethod calls setting here value name
          (← lift setting here (withKeywords places named))) := fun here =>
      (subject own on name rfl).bind fun _ =>
        sound_arguments setting here places named fun _ =>
          sound_callMethod sound setting here _ name _
    by_cases isSelf : ∃ own, on = .var own "self"
    · obtain ⟨own, rfl⟩ := isSelf
      exact sound_failAt setting line rfl
    · rw [eval]
      · exact method _
      · intro own same
        exact isSelf ⟨own, same⟩
  | .const _ _, value | .list _ _, value | .map _ _, value | .unary _ _ _, value
  | .binary _ _ _ _, value | .chain _ _ _, value | .both _ _ _, value | .either _ _ _, value
  | .choice _ _ _ _, value | .item _ _ _, value | .slice _ _ _ _ _, value | .call _ _ _, value
  | .filter _ _ _ _, value | .test _ _ _ _, value =>
    exact value.bind fun _ => sound_arguments setting _ places named fun _ =>
      sound_callValue sound setting _ _ _

mutual

theorem sound_eval {calls : Calls} (sound : calls.Sound) (setting : Setting) (e : Expr) :
    Sound (eval calls setting e) := by
  match e with
  | .const _ value => exact Keeps.pure value
  | .list _ items => exact (sound_evalItems sound setting items).map _
  | .map _ entries => exact (sound_evalEntries sound setting entries).map _
  | .var _ name => exact (sound_find? setting name).bind fun _ => Keeps.pure _
  | .unary line op operand =>
    refine (sound_eval sound setting operand).bind fun value => ?_
    cases op with
    | not => exact (sound_truth setting _ value).bind fun _ => Keeps.pure _
    | neg => exact sound_lift setting line (Value.ofRender_orInvalid _)
  | .binary line op left right =>
    exact (sound_eval sound setting left).bind fun x => (sound_eval sound setting right).bind fun y =>
      sound_lift setting _ (ofRender_binaryValue op x y)
  | .chain line first rest =>
    exact (sound_eval sound setting first).bind fun x =>
      (sound_evalLinks sound setting _ x rest).map _
  | .both line left right =>
    refine (sound_eval sound setting left).bind fun x => (sound_truth setting _ x).bind fun holds => ?_
    split
    · exact sound_eval sound setting right
    · exact Keeps.pure x
  | .either line left right =>
    refine (sound_eval sound setting left).bind fun x => (sound_truth setting _ x).bind fun holds => ?_
    split
    · exact Keeps.pure x
    · exact sound_eval sound setting right
  | .choice line condition yes no =>
    refine (sound_eval sound setting condition).bind fun value =>
      (sound_truth setting _ value).bind fun holds => ?_
    split
    · exact sound_eval sound setting yes
    · exact sound_evalOption sound setting _ no
  | .field line subject name =>
    exact (sound_eval sound setting subject).bind fun value => sound_partOf setting _ value _
  | .item line subject key =>
    exact (sound_eval sound setting subject).bind fun value =>
      (sound_eval sound setting key).bind fun _ => sound_partOf setting _ value _
  | .slice line subject start stop step =>
    exact (sound_eval sound setting subject).bind fun _ =>
      (sound_evalOption sound setting _ start).bind fun _ =>
        (sound_evalOption sound setting _ stop).bind fun _ =>
          (sound_evalOption sound setting _ step).bind fun _ =>
            sound_lift setting _ (ofRender_sliceValue _ _ _ _)
  | .call line callee arguments =>
    have subject : ∀ own subject name, callee = .field own subject name →
        Sound (eval calls setting subject) := by
      cases callee with
      | field own on name =>
        intro _ _ _ same
        cases same
        exact sound_eval sound setting on
      | _ =>
        intro _ _ _ same
        cases same
    exact sound_evalCall sound setting line callee arguments (sound_eval sound setting callee) subject
      (sound_evalPlaces sound setting arguments) (sound_evalNamed sound setting arguments)
  | .filter line name subject arguments =>
    exact (sound_eval sound setting subject).bind fun value =>
      sound_arguments setting _ (sound_evalPlaces sound setting arguments)
        (sound_evalNamed sound setting arguments) fun _ => sound_applyFilter setting _ name value _
  | .test line name subject arguments =>
    exact (sound_eval sound setting subject).bind fun value =>
      sound_arguments setting _ (sound_evalPlaces sound setting arguments)
        (sound_evalNamed sound setting arguments) fun _ => sound_applyTest setting _ name value _
termination_by structural e

theorem sound_evalItems {calls : Calls} (sound : calls.Sound) (setting : Setting)
    (items : List Expr) : Sound (evalItems calls setting items) := by
  match items with
  | [] => exact Keeps.pure _
  | item :: rest =>
    exact (sound_eval sound setting item).bind fun _ =>
      (sound_evalItems sound setting rest).bind fun _ => Keeps.pure _
termination_by structural items

theorem sound_evalEntries {calls : Calls} (sound : calls.Sound) (setting : Setting)
    (entries : List (Expr × Expr)) : Sound (evalEntries calls setting entries) := by
  match entries with
  | [] => exact Keeps.pure _
  | (key, value) :: rest =>
    exact (sound_eval sound setting key).bind fun _ => (sound_eval sound setting value).bind fun _ =>
      (sound_evalEntries sound setting rest).bind fun _ => Keeps.pure _
termination_by structural entries

theorem sound_evalOption {calls : Calls} (sound : calls.Sound) (setting : Setting)
    (default_ : Value) (e : Option Expr) : Sound (evalOption calls setting default_ e) := by
  match e with
  | none => exact Keeps.pure default_
  | some e => exact sound_eval sound setting e
termination_by structural e

theorem sound_evalLinks {calls : Calls} (sound : calls.Sound) (setting : Setting) (line : Nat)
    (x : Value) (links : List (Comparison × Expr)) : Sound (evalLinks calls setting line x links) := by
  match links with
  | [] => exact Keeps.pure true
  | (comparison, operand) :: rest =>
    refine (sound_eval sound setting operand).bind fun y =>
      (sound_lift setting _ (ofRender_comparisonHolds comparison x y)).bind fun holds => ?_
    split
    · exact sound_evalLinks sound setting _ y rest
    · exact Keeps.pure false
termination_by structural links

theorem sound_evalPlaces {calls : Calls} (sound : calls.Sound) (setting : Setting)
    (arguments : List Argument) : Sound (evalPlaces calls setting arguments) := by
  match arguments with
  | [] => exact Keeps.pure _
  | argument :: rest =>
    exact (sound_evalPlace sound setting argument).bind fun _ =>
      (sound_evalPlaces sound setting rest).bind fun _ => Keeps.pure _
termination_by structural arguments

theorem sound_evalPlace {calls : Calls} (sound : calls.Sound) (setting : Setting)
    (argument : Argument) : Sound (evalPlace calls setting argument) := by
  match argument with
  | .place value => exact (sound_eval sound setting value).bind fun _ => Keeps.pure _
  | .spread value => exact (sound_eval sound setting value).bind fun _ => Keeps.pure _
  | .named _ _ => exact Keeps.pure none
  | .spreadNamed _ => exact Keeps.pure none
termination_by structural argument

theorem sound_evalNamed {calls : Calls} (sound : calls.Sound) (setting : Setting)
    (arguments : List Argument) : Sound (evalNamed calls setting arguments) := by
  match arguments with
  | [] => exact Keeps.pure _
  | argument :: rest =>
    exact (sound_evalName sound setting argument).bind fun _ =>
      (sound_evalNamed sound setting rest).bind fun _ => Keeps.pure _
termination_by structural arguments

theorem sound_evalName {calls : Calls} (sound : calls.Sound) (setting : Setting)
    (argument : Argument) : Sound (evalName calls setting argument) := by
  match argument with
  | .named name value => exact (sound_eval sound setting value).bind fun _ => Keeps.pure _
  | .spreadNamed value => exact (sound_eval sound setting value).bind fun _ => Keeps.pure _
  | .place _ => exact Keeps.pure none
  | .spread _ => exact Keeps.pure none
termination_by structural argument

end

/-! ### Statements -/

mutual

theorem sound_bindTarget {calls : Calls} (sound : calls.Sound) (setting : Setting) (target : Target)
    (value : Value) : Sound (bindTarget calls setting target value) := by
  match target with
  | .name name => exact sound_assign name value
  | .field line subject _ =>
    exact (sound_eval sound setting subject).bind fun _ => sound_failAt setting _ rfl
  | .list line targets =>
    have unpack : ∀ items, Sound (if items.length = targets.length then
        bindTargets calls setting targets items
        else failAt setting line ⟨.cannotUnpack, none⟩) := by
      intro items
      split
      · exact sound_bindTargets sound setting targets items
      · exact sound_failAt setting line rfl
    cases value with
    | list lazy items => exact unpack items
    | map keywords entries => exact unpack _
    | _ => exact sound_failAt setting line rfl
termination_by structural target

theorem sound_bindTargets {calls : Calls} (sound : calls.Sound) (setting : Setting)
    (targets : List Target) (values : List Value) :
    Sound (bindTargets calls setting targets values) := by
  match targets, values with
  | target :: targets, value :: values =>
    exact (sound_bindTarget sound setting target value).bind fun _ =>
      sound_bindTargets sound setting targets values
  | [], _ => exact Keeps.pure ()
  | _ :: _, [] => exact Keeps.pure ()
termination_by structural targets

end

section Statements

variable {calls : Calls} (sound : calls.Sound) (setting : Setting)

include sound

theorem sound_applyFilters (filters : List BlockFilter) (value : Value) :
    Sound (applyFilters calls setting filters value) := by
  induction filters generalizing value with
  | nil => exact Keeps.pure value
  | cons filter rest ih =>
    exact sound_arguments setting _ (sound_evalPlaces sound setting filter.arguments)
      (sound_evalNamed sound setting filter.arguments) fun _ =>
        (sound_applyFilter setting _ filter.name value _).bind fun result => ih result

theorem sound_chosen (line : Nat) (target : Target) (condition : Expr) (items : List Value) :
    Sound (chosen calls setting line target condition items) := by
  induction items with
  | nil => exact Keeps.pure _
  | cons item rest ih =>
    exact (sound_bindTarget sound setting target item).bind fun _ =>
      (sound_eval sound setting condition).bind fun value =>
        (sound_truth setting _ value).bind fun _ => ih.bind fun _ => Keeps.pure _

theorem sound_bindAll (bindings : List (Target × Expr)) :
    Sound (bindAll calls setting bindings) := by
  induction bindings with
  | nil => exact Keeps.pure _
  | cons binding rest ih =>
    exact (sound_eval sound setting binding.2).bind fun value =>
      (sound_bindTarget sound setting binding.1 value).bind fun _ => ih

theorem sound_bindParameters (bound : List (String × Value)) (defaults : List Expr) :
    Sound (bindParameters calls setting bound defaults) := by
  induction bound generalizing defaults with
  | nil =>
    rw [bindParameters]
    exact Keeps.pure _
  | cons parameter rest ih =>
    cases defaults with
    | nil => exact (sound_assign _ _).bind fun _ => ih []
    | cons default_ defaults =>
      obtain ⟨name, value⟩ := parameter
      rw [bindParameters]
      split
      · exact (sound_eval sound setting default_).bind fun _ => (sound_assign _ _).bind fun _ =>
          ih defaults
      · exact Keeps.bind (Keeps.pure value) fun _ => (sound_assign _ _).bind fun _ => ih defaults

omit sound in
theorem sound_eachItem {part : Value → Rendering Unit} (h : ∀ item, Sound (part item))
    (depth length before : Nat) (previous : Value) (items : List Value) :
    Sound (eachItem part depth length before previous items) := by
  induction items generalizing before previous with
  | nil => exact Keeps.pure _
  | cons item rest ih =>
    refine Keeps.bind (sound_modify fun machine => ?_) fun _ => (h item).bind fun _ => ih _ _
    split
    · rfl
    · rfl

omit sound in
theorem sound_runLoop (line depth : Nat) (repeats? : Option (Target × List Stmt))
    {part : Value → Rendering Unit} (h : ∀ item, Sound (part item)) (items : List Value) :
    Sound (runLoop setting line depth repeats? part items) :=
  sound_within setting line _ (sound_eachItem h _ _ _ _ _)

/-- What an embedded page writes stays, and its fault is one of the page around it. -/
theorem sound_embedFirst (line : Nat) (optional missed : Bool) (pages : List Value) :
    Sound (embedFirst calls setting line optional missed pages) := by
  induction pages generalizing missed with
  | nil =>
    rw [embedFirst]
    split
    · exact sound_failAt setting line rfl
    · exact Keeps.pure _
  | cons value rest ih =>
    rw [embedFirst]
    split
    · exact sound_failAt setting line rfl
    · split
      · refine Keeps.get_bind fun machine texts => Keeps.bind (sound_set texts) fun _ =>
          (sound_checkDepth setting line).bind fun _ => Keeps.get_bind fun now texts => ?_
        refine Keeps.bind (sound_set (sound.embed now texts).1) fun _ => ?_
        split
        · exact sound_modify fun _ => rfl
        · exact sound_failAt setting line rfl
      · exact ih true

end Statements

mutual

theorem sound_exec {calls : Calls} (sound : calls.Sound) (setting : Setting) (statement : Stmt) :
    Sound (exec calls setting statement) := by
  match statement with
  | .text text => exact sound_write text
  | .print line value =>
    by_cases isLoop : ∃ outer own argument,
        value = .call outer (.var own "loop") [.place argument]
    · obtain ⟨outer, own, argument, rfl⟩ := isLoop
      exact (sound_eval sound setting argument).bind fun item =>
        sound_callLoop sound setting _ [item]
    · rw [exec]
      · exact (sound_eval sound setting value).bind fun result => sound_printed setting _ result
      · intro outer own argument same
        exact isLoop ⟨outer, own, argument, same⟩
  | .loop line target items condition recursive body otherwise =>
    rw [exec]
    refine (sound_eval sound setting items).bind fun subject =>
      (sound_lift setting _ (Value.ofRender_toItems subject)).bind fun all => ?_
    extract_lets goOn
    have rounds : ∀ kept, Sound (goOn kept) := by
      intro kept
      refine Keeps.get_bind fun machine _ => ?_
      refine (sound_runLoop setting _ _ _ (fun item =>
        (sound_bindTarget sound setting target item).bind fun _ =>
          sound_execAll sound setting body) kept).bind fun _ => ?_
      split
      · exact sound_execAll sound setting otherwise
      · exact Keeps.pure ()
    cases condition with
    | none => exact (Keeps.pure all).bind rounds
    | some condition =>
      exact (sound_within setting _ plainFrame
        (sound_chosen sound setting _ target condition all)).bind rounds
  | .branch line condition yes no =>
    refine (sound_eval sound setting condition).bind fun value =>
      (sound_truth setting _ value).bind fun holds => ?_
    split
    · exact sound_execAll sound setting yes
    · exact sound_execAll sound setting no
  | .assign _ target value =>
    exact (sound_eval sound setting value).bind fun result =>
      sound_bindTarget sound setting target result
  | .capture _ target filters body =>
    exact (sound_captured (sound_execAll sound setting body)).bind fun _ =>
      (sound_applyFilters sound setting filters _).bind fun result =>
        sound_bindTarget sound setting target result
  | .scope line bindings body =>
    exact sound_within setting line plainFrame
      ((sound_bindAll sound setting bindings).bind fun _ => sound_execAll sound setting body)
  | .filtered line filters body =>
    exact (sound_captured (sound_execAll sound setting body)).bind fun _ =>
      (sound_applyFilters sound setting filters _).bind fun result => sound_printed setting _ result
  | .define _ name parameters defaults body =>
    exact sound_closureOf.bind fun _ => (sound_addMacro _).bind fun _ => sound_assign name _
  | .embed line page optional =>
    exact (sound_eval sound setting page).bind fun value =>
      sound_embedFirst sound setting line optional false _
  | .inherit line page =>
    refine (sound_eval sound setting page).bind fun value => ?_
    split
    · exact sound_failAt setting line rfl
    · split
      · exact sound_failAt setting line rfl
      · exact sound_failAt setting line rfl
termination_by structural statement

theorem sound_execAll {calls : Calls} (sound : calls.Sound) (setting : Setting)
    (statements : List Stmt) : Sound (execAll calls setting statements) := by
  match statements with
  | [] => exact Keeps.pure ()
  | statement :: rest =>
    exact (sound_exec sound setting statement).bind fun _ => sound_execAll sound setting rest
termination_by structural statements

end

/-! ### Calls -/

theorem sound_runMacro {calls : Calls} (sound : calls.Sound) (setting : Setting) (line : Nat)
    (record : MacroRecord) (arguments : List Value) :
    Sound (runMacro calls setting line record arguments) :=
  (sound_lift setting line (ofRender_parameterValues _ _)).bind fun _ =>
    Keeps.get_bind fun _ texts => Keeps.bind (sound_set texts) fun _ =>
      (sound_checkDepth setting line).bind fun _ =>
        (sound_captured ((sound_bindParameters sound setting _ _).bind fun _ =>
          sound_execAll sound setting record.body)).bind fun _ =>
            Keeps.bind (sound_modify fun _ => rfl) fun _ => Keeps.pure _

theorem sound_callsOf (setting : Setting) (page : List Stmt) (fuel : Nat) :
    (callsOf setting page fuel).Sound := by
  induction fuel with
  | zero =>
    exact {
      macroCall := fun line _ _ => sound_failAt setting line rfl
      again := fun line _ _ _ _ => sound_failAt setting line rfl
      embed := sound_failAt setting 1 rfl }
  | succ fuel less =>
    exact {
      macroCall := fun line record arguments => sound_runMacro less setting line record arguments
      again := fun line depth target body items =>
        sound_runLoop setting line depth _
          (fun item => (sound_bindTarget less setting target item).bind fun _ =>
            sound_execAll less setting body) items
      embed := sound_execAll less setting page }

end Rendering

section Run

variable (setting : Setting) (page : List Stmt) (data : Json) (hasSignal : Bool)

/-- A run of a page is that of its statements in the scope that the data gives. -/
theorem sound_run :
    Texts (run setting page data hasSignal).events ∧
      FaultsIn Fault.OfExecution (run setting page data hasSignal).outcome := by
  have sound := Rendering.sound_execAll (Rendering.sound_callsOf setting page (Rendering.deepest + 1))
    setting page
  obtain ⟨texts, blamed⟩ := sound
    ⟨[{ Rendering.plainFrame with base := .given (rootVariables data hasSignal) }], 0, [], [], [], []⟩
    Texts.nil
  constructor
  · intro event inRun
    exact texts event (List.mem_reverse.mp inRun)
  · exact blamed.mapError fun fault isExecution =>
      ⟨.page fault, PageFault.toFault_of_isExecution isExecution⟩

end Run

end Templating.Page
