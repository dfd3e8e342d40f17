import Templating.Proofs.Yaml.Rest
import Templating.Proofs.Yaml.Tokens

/-! Reading the nodes of a layout from its tokens. Each level of nodes takes fuel, and so does each item
of a list and each entry of a map, but never more than the tokens of a layout allow. -/

namespace Templating.Yaml

open Cutting

/-! ### The nodes of a layout -/

def Key.node (key : Key) : Node := .scalar key.text key.isPlain

def Value.node : Value → Node
  | word text => .scalar text true
  | list texts => .list (texts.map (.scalar · false)) true

def Entry.node (entry : Entry) : Node × Node := (entry.key.node, entry.value.node)

def itemNode (entries : List Entry) : Node := .map (entries.map Entry.node) true

def Section.node : Section → Node × Node
  | single entry => entry.node
  | list key items => (key.node, .list (items.map itemNode) true)

/-! ### Values -/

theorem flowItems_text {fuel : Nat} (enough : 2 ≤ fuel) (text : String) (tokens : List Token) :
    flowItems (fuel + 1) (.scalar text false :: tokens) =
      match tokens with
      | .comma :: rest => (.scalar text false :: (flowItems fuel rest).1, (flowItems fuel rest).2)
      | .flowListEnd :: rest => ([.scalar text false], some rest)
      | _ => ([.scalar text false], none) := by
  obtain ⟨fuel, rfl⟩ : ∃ few, fuel = few + 2 := ⟨fuel - 2, by omega⟩
  have item : flowItem (fuel + 2) (.scalar text false :: tokens) = (.scalar text false, some tokens) := rfl
  rw [flowItems]
  · simp only [item]
    split <;> simp_all
  · simp

theorem flowItems_texts (texts : List String) {fuel : Nat} {rest : List Token}
    (enough : (textTokens texts).length + 2 ≤ fuel) :
    flowItems fuel (textTokens texts ++ rest) = (texts.map (.scalar · false), some rest) := by
  induction texts generalizing fuel with
  | nil =>
    obtain ⟨fuel, rfl⟩ : ∃ few, fuel = few + 1 := ⟨fuel - 1, by omega⟩
    rfl
  | cons text more ih =>
    obtain ⟨fuel, rfl⟩ : ∃ few, fuel = few + 1 := ⟨fuel - 1, by omega⟩
    cases more with
    | nil =>
      simp only [textTokens, List.length_cons] at enough
      exact flowItems_text (by omega) text _
    | cons next more =>
      simp only [textTokens, List.length_cons] at enough
      have read : flowItems fuel (textTokens (next :: more) ++ rest) = _ := ih (by omega)
      rw [textTokens, List.cons_append, List.cons_append, flowItems_text (by omega)]
      · simp only [read]
        rfl
      · simp

theorem node_value {block belowKey : Bool} (value : Value) {fuel : Nat} {rest : List Token}
    (enough : value.tokens.length + 3 ≤ fuel) :
    node block belowKey fuel (value.tokens ++ rest) = (value.node, some rest) := by
  obtain ⟨fuel, rfl⟩ : ∃ few, fuel = few + 1 := ⟨fuel - 1, by omega⟩
  cases value with
  | word text => rfl
  | list texts =>
    simp only [Value.tokens, List.length_cons] at enough
    have items : flowItems fuel (textTokens texts ++ rest) = _ := flowItems_texts texts (by omega)
    rw [Value.tokens, List.cons_append, node, items]
    rfl

theorem Value.tokens_ne_nil (value : Value) : value.tokens ≠ [] := by
  cases value <;> simp [tokens]

theorem Value.stays (value : Value) (rest : List Token) :
    ∀ token ∈ (value.tokens ++ rest).head?, entryStops.contains token = false := by
  cases value <;> simp [tokens, entryStops]

/-! ### Entries and items one after another -/

/-- Something is read first with fuel for its tokens, and the rest with one less. -/
def ReadsFirst (read : Nat → List Token → Reading (List α)) (tokens : List Token) (x : α) : Prop :=
  ∀ fuel rest, tokens.length + 8 ≤ fuel →
    read (fuel + 1) (tokens ++ rest) = (x :: (read fuel rest).1, (read fuel rest).2)

/-- Each of several is read, and the rest with what is left of the fuel. -/
theorem reads_all {read : Nat → List Token → Reading (List α)} {tokensOf : β → List Token} {valueOf : β → α}
    (first : ∀ b, ReadsFirst read (tokensOf b) (valueOf b)) (nonempty : ∀ b, tokensOf b ≠ [])
    (values : List β) (rest : List Token)
    {fuel : Nat} (enough : (values.flatMap tokensOf).length + 9 ≤ fuel) :
    ∃ fewer, fuel ≤ fewer + (values.flatMap tokensOf).length ∧
      read fuel (values.flatMap tokensOf ++ rest) =
        (values.map valueOf ++ (read fewer rest).1, (read fewer rest).2) := by
  induction values generalizing fuel with
  | nil => exact ⟨fuel, Nat.le_add_right .., rfl⟩
  | cons value more ih =>
    have some := List.length_pos_iff.mpr (nonempty value)
    rw [List.flatMap_cons, List.length_append] at enough
    obtain ⟨fuel, rfl⟩ : ∃ few, fuel = few + 1 := ⟨fuel - 1, by omega⟩
    obtain ⟨fewer, spent, later⟩ := ih (show (more.flatMap tokensOf).length + 9 ≤ fuel by omega)
    refine ⟨fewer, by rw [List.flatMap_cons, List.length_append]; omega, ?_⟩
    rw [List.flatMap_cons, List.append_assoc, first value _ _ (by omega), later]
    rfl

theorem nodeUnless_key {fuel : Nat} (enough : 2 ≤ fuel) (key : Key) (rest : List Token) :
    nodeUnless entryStops true true fuel (.scalar key.text key.isPlain :: rest) = (key.node, some rest) := by
  obtain ⟨fuel, rfl⟩ : ∃ few, fuel = few + 2 := ⟨fuel - 2, by omega⟩
  rw [nodeUnless, if_neg (by simp [entryStops])]
  rfl

/-- Behind a key an entry follows, however it goes on. -/
theorem entries_key {fuel : Nat} (enough : 3 ≤ fuel) (key : Key) (rest : List Token) :
    ∃ value more left, entries fuel (key.tokens ++ rest) = ((key.node, value) :: more, left) := by
  obtain ⟨fuel, rfl⟩ : ∃ few, fuel = few + 1 := ⟨fuel - 1, by omega⟩
  rw [Key.tokens, List.cons_append, List.cons_append, entries]
  simp only [nodeUnless_key (show 2 ≤ fuel by omega)]
  split
  · exact ⟨_, _, _, rfl⟩
  · exact ⟨_, _, _, rfl⟩

/-- An entry whose value is a node that can be told from what may stand in its place. -/
theorem entries_value {fuel : Nat} (enough : 2 ≤ fuel) (key : Key) {tokens : List Token}
    (stays : ∀ token ∈ tokens.head?, entryStops.contains token = false) (nonempty : tokens ≠ []) :
    entries (fuel + 1) (key.tokens ++ tokens) =
      match node true true (fuel - 2) tokens with
      | (value, none) => ([(key.node, value)], none)
      | (value, some rest) => ((key.node, value) :: (entries fuel rest).1, (entries fuel rest).2) := by
  obtain ⟨fuel, rfl⟩ : ∃ few, fuel = few + 2 := ⟨fuel - 2, by omega⟩
  obtain ⟨token, more, rfl⟩ := List.exists_cons_of_ne_nil nonempty
  have value : value entryStops true (fuel + 2) (.value :: token :: more) =
      node true true fuel (token :: more) := by
    rw [Yaml.value, nodeUnless, if_neg (Bool.eq_false_iff.mp (stays token rfl))]
  rw [Key.tokens, List.cons_append, List.cons_append, List.cons_append, List.nil_append, entries]
  simp only [nodeUnless_key (show 2 ≤ fuel + 2 by omega), value, Nat.add_sub_cancel]
  cases node true true fuel (token :: more) with
  | mk read left => cases left <;> rfl

theorem entries_node {fuel : Nat} (enough : 2 ≤ fuel) (key : Key) {tokens rest : List Token} {read : Node}
    (stays : ∀ token ∈ tokens.head?, entryStops.contains token = false) (nonempty : tokens ≠ [])
    (node : Yaml.node true true (fuel - 2) tokens = (read, some rest)) :
    entries (fuel + 1) (key.tokens ++ tokens) =
      ((key.node, read) :: (entries fuel rest).1, (entries fuel rest).2) := by
  rw [entries_value enough key stays nonempty, node]

theorem Entry.tokens_ne_nil (entry : Entry) : entry.tokens ≠ [] := by simp [tokens, Key.tokens]

theorem readsFirst_entry (entry : Entry) : ReadsFirst entries entry.tokens entry.node := by
  intro fuel rest enough
  simp only [Entry.tokens, Key.tokens, List.length_append, List.length_cons, List.length_nil] at enough
  have node : Yaml.node true true (fuel - 2) (entry.value.tokens ++ rest) = _ :=
    node_value entry.value (by omega)
  rw [Entry.tokens, List.append_assoc]
  exact entries_node (by omega) entry.key (entry.value.stays rest) (by simp [entry.value.tokens_ne_nil]) node

theorem readsFirst_item (item : List Entry) : ReadsFirst (items false) (itemTokens item) (itemNode item) := by
  intro fuel rest enough
  simp only [itemTokens, List.length_append, List.length_cons, List.length_nil] at enough
  obtain ⟨fuel, rfl⟩ : ∃ few, fuel = few + 3 := ⟨fuel - 3, by omega⟩
  obtain ⟨fewer, spent, read⟩ := reads_all readsFirst_entry Entry.tokens_ne_nil item (.blockEnd :: rest)
    (show _ ≤ fuel + 1 by omega)
  obtain ⟨fewer, rfl⟩ : ∃ few, fewer = few + 1 := ⟨fewer - 1, by omega⟩
  have map : entries (fuel + 1) (item.flatMap Entry.tokens ++ .blockEnd :: rest) =
      (item.map Entry.node, some rest) := by
    rw [read]
    simp [entries]
  have node : nodeUnless (itemStops false) true false (fuel + 3)
      (.blockMap :: (item.flatMap Entry.tokens ++ .blockEnd :: rest)) = (itemNode item, some rest) := by
    rw [nodeUnless, if_neg (by simp [itemStops]), Yaml.node, if_pos rfl, map]
    rfl
  rw [itemTokens, List.cons_append, List.cons_append, List.append_assoc, List.singleton_append, items]
  simp only [node]

/-- Items are read up to the end of their list. -/
theorem node_items (list : List (List Entry)) {fuel : Nat} {belowKey : Bool} {rest : List Token}
    (enough : (list.flatMap itemTokens).length + 10 ≤ fuel) :
    node true belowKey fuel (.blockList :: (list.flatMap itemTokens ++ .blockEnd :: rest)) =
      (.list (list.map itemNode) true, some rest) := by
  obtain ⟨fuel, rfl⟩ : ∃ few, fuel = few + 1 := ⟨fuel - 1, by omega⟩
  obtain ⟨fewer, spent, read⟩ := reads_all readsFirst_item (by simp [itemTokens]) list (.blockEnd :: rest)
    (show _ ≤ fuel by omega)
  obtain ⟨fewer, rfl⟩ : ∃ few, fewer = few + 1 := ⟨fewer - 1, by omega⟩
  rw [node, if_pos rfl, read]
  simp [items]

theorem readsFirst_section (part : Section) : ReadsFirst entries part.tokens part.node := by
  cases part with
  | single entry => exact readsFirst_entry entry
  | list key list =>
    intro fuel rest enough
    simp only [Section.tokens, Key.tokens, List.length_append, List.length_cons, List.length_nil] at enough
    have node : Yaml.node true true (fuel - 2)
        (.blockList :: (list.flatMap itemTokens ++ .blockEnd :: rest)) = _ := node_items list (by omega)
    have spelled : (Section.list key list).tokens ++ rest =
        key.tokens ++ (.blockList :: (list.flatMap itemTokens ++ [.blockEnd]) ++ rest) := by
      simp [Section.tokens]
    rw [spelled]
    refine entries_node (by omega) key (by simp [entryStops]) (by simp) ?_
    simpa using node

/-! ### Documents -/

theorem root_of_blockMap (tokens : List Token) :
    root (.blockMap :: tokens) = topNode (.blockMap :: tokens) := rfl

/-- A layout is read as what it describes. -/
theorem read_layout {parts : List Section} (nonempty : parts ≠ [])
    (proper : ∀ part ∈ parts, part.isProper = true) :
    read (ofLines (parts.flatMap Section.lines)) = ⟨.map (parts.map Section.node) true, true⟩ := by
  let fuel := 4 * (parts.flatMap Section.tokens).length + 15
  have enough : 4 * (Token.blockMap :: (parts.flatMap Section.tokens ++ [.blockEnd, .textEnd])).length + 4 =
      fuel + 1 := by
    simp [fuel]
    omega
  obtain ⟨fewer, spent, read⟩ := reads_all readsFirst_section Section.tokens_ne_nil parts
    [.blockEnd, .textEnd] (show _ ≤ fuel by omega)
  obtain ⟨fewer, rfl⟩ : ∃ few, fewer = few + 1 := ⟨fewer - 1, by omega⟩
  have map : entries fuel (parts.flatMap Section.tokens ++ [.blockEnd, .textEnd]) =
      (parts.map Section.node, some [.textEnd]) := by
    rw [read]
    simp [entries]
  rw [Yaml.read, tokens_layout nonempty proper, root_of_blockMap, topNode, enough, node, if_pos rfl, map]
  rfl

/-- The entries up to a key, behind which the tokens go on in any way. -/
theorem entries_begin {tokensOf : β → List Token} {nodeOf : β → Node × Node}
    (first : ∀ b, ReadsFirst entries (tokensOf b) (nodeOf b)) (nonempty : ∀ b, tokensOf b ≠ [])
    (values : List β) (key : Key) (rest : List Token)
    {fuel : Nat} (enough : (values.flatMap tokensOf).length + 9 ≤ fuel) :
    ∃ value more left, entries fuel (values.flatMap tokensOf ++ (key.tokens ++ rest)) =
      (values.map nodeOf ++ (key.node, value) :: more, left) := by
  obtain ⟨fewer, spent, read⟩ := reads_all first nonempty values (key.tokens ++ rest) enough
  obtain ⟨value, more, left, last⟩ := entries_key (show 3 ≤ fewer by omega) key rest
  exact ⟨value, more, left, by rw [read, last]⟩

/-- Nodes start with items, and with one that has some entries and then one with a key. -/
def StartWith (list : List (List Entry)) (front : List Entry) (key : Key) (nodes : List Node) : Prop :=
  ∃ value more whole others,
    nodes = list.map itemNode ++ .map (front.map Entry.node ++ (key.node, value) :: more) whole :: others

/-- The tokens of items up to a key of one. -/
def upToKey (list : List (List Entry)) (front : List Entry) (key : Key) : List Token :=
  list.flatMap itemTokens ++ .dash :: .blockMap :: (front.flatMap Entry.tokens ++ key.tokens)

theorem items_begin (list : List (List Entry)) (front : List Entry) (key : Key) (rest : List Token)
    {fuel : Nat} (enough : (upToKey list front key).length + 8 ≤ fuel) :
    StartWith list front key (items false fuel (upToKey list front key ++ rest)).1 := by
  have spelled : upToKey list front key ++ rest = list.flatMap itemTokens ++
      .dash :: .blockMap :: (front.flatMap Entry.tokens ++ (key.tokens ++ rest)) := by
    simp [upToKey]
  simp only [upToKey, Key.tokens, List.length_append, List.length_cons, List.length_nil] at enough
  obtain ⟨fewer, spent, read⟩ := reads_all readsFirst_item (by simp [itemTokens]) list
    (.dash :: .blockMap :: (front.flatMap Entry.tokens ++ (key.tokens ++ rest))) (show _ ≤ fuel by omega)
  obtain ⟨fewer, rfl⟩ : ∃ few, fewer = few + 4 := ⟨fewer - 4, by omega⟩
  obtain ⟨value, more, left, map⟩ := entries_begin readsFirst_entry Entry.tokens_ne_nil front key rest
    (show _ ≤ fewer + 1 by omega)
  have node : nodeUnless (itemStops false) true false (fewer + 3)
      (.blockMap :: (front.flatMap Entry.tokens ++ (key.tokens ++ rest))) =
      (.map (front.map Entry.node ++ (key.node, value) :: more) left.isSome, left) := by
    rw [nodeUnless, if_neg (by simp [itemStops]), Yaml.node, if_pos rfl, map]
  have item : ∃ others, (items false (fewer + 4)
      (.dash :: .blockMap :: (front.flatMap Entry.tokens ++ (key.tokens ++ rest)))).1 =
        .map (front.map Entry.node ++ (key.node, value) :: more) left.isSome :: others := by
    rw [items]
    simp only [node]
    cases left <;> exact ⟨_, rfl⟩
  obtain ⟨others, item⟩ := item
  rw [spelled, read, item]
  exact ⟨value, more, left.isSome, others, rfl⟩

/-- The entries up to one whose value is a list that goes on in any way. -/
theorem entries_list (parts : List Section) (name : Key) (inner : List Token) {P : List Node → Prop}
    {fuel : Nat} (enough : (parts.flatMap Section.tokens).length + inner.length + 13 ≤ fuel)
    (holds : ∀ fuel, inner.length + 8 ≤ fuel → P (items false fuel inner).1) :
    ∃ nodes ended further left, P nodes ∧
      entries fuel (parts.flatMap Section.tokens ++ (name.tokens ++ .blockList :: inner)) =
        (parts.map Section.node ++ (name.node, .list nodes ended) :: further, left) := by
  obtain ⟨fewer, spent, read⟩ := reads_all readsFirst_section Section.tokens_ne_nil parts
    (name.tokens ++ .blockList :: inner) (show _ ≤ fuel by omega)
  obtain ⟨fewer, rfl⟩ : ∃ few, fewer = few + 4 := ⟨fewer - 4, by omega⟩
  have node : Yaml.node true true (fewer + 3 - 2) (.blockList :: inner) =
      (.list (items false fewer inner).1 (items false fewer inner).2.isSome,
        (items false fewer inner).2) := by
    rw [show fewer + 3 - 2 = fewer + 1 by omega, Yaml.node, if_pos rfl]
  have entry : ∃ further left, entries (fewer + 4) (name.tokens ++ .blockList :: inner) =
      ((name.node, .list (items false fewer inner).1 (items false fewer inner).2.isSome) :: further,
        left) := by
    rw [entries_value (by omega) name (by simp [entryStops]) (by simp), node]
    cases (items false fewer inner).2 <;> exact ⟨_, _, rfl⟩
  obtain ⟨further, left, entry⟩ := entry
  exact ⟨_, _, further, left, holds fewer (by omega), by rw [read, entry]⟩

theorem incomplete_of_absent {source : String} (absent : .textEnd ∉ tokens source) :
    (read source).complete = false :=
  Bool.eq_false_iff.mpr fun complete => absent (textEnd_mem_of_complete complete)

theorem read_root {source : String} {more : List Token} (found : tokens source = .blockMap :: more) :
    (read source).root =
      .map (entries (4 * more.length + 7) more).1 (entries (4 * more.length + 7) more).2.isSome := by
  have top : (read source).root = (root (tokens source)).1 := rfl
  rw [top, found, root_of_blockMap, topNode, List.length_cons, Nat.mul_add, node, if_pos rfl]

variable {source : String} {parts : List Section} {name key : Key} {list : List (List Entry)}
  {front : List Entry} {rest : List Char}

/-- A text that goes on in any way behind the key of a section has an entry with this key, or its document
is not complete. -/
theorem read_section (earlier : ∀ part ∈ parts, part.isProper = true) (proper : key.isProper = true)
    (spelled : source.toList = sectionsText parts ++ (key.written.toList ++ ':' :: ' ' :: rest)) :
    (∃ value more complete,
      (read source).root = .map (parts.map Section.node ++ (key.node, value) :: more) complete) ∨
      (read source).complete = false := by
  rcases begins_section earlier proper spelled with ⟨others, found⟩ | absent
  · rw [List.cons_append, List.append_assoc] at found
    obtain ⟨value, more, left, read⟩ := entries_begin readsFirst_section Section.tokens_ne_nil parts key
      others (show _ ≤ 4 * (parts.flatMap Section.tokens ++ (key.tokens ++ others)).length + 7 by
        simp [Key.tokens]; omega)
    refine .inl ⟨value, more, left.isSome, ?_⟩
    rw [read_root found.symm, read]
  · exact .inr (incomplete_of_absent absent)

/-- A text that goes on in any way behind the key of an entry of an item has an item with such an entry, or
its document is not complete. -/
theorem read_item (earlier : ∀ part ∈ parts, part.isProper = true) (nameProper : name.isProper = true)
    (short : name.isShort = true) (nonempty : ∀ entries ∈ list, entries ≠ [])
    (listProper : ∀ entries ∈ list, ∀ entry ∈ entries, entry.isProper = true)
    (frontProper : ∀ entry ∈ front, entry.isProper = true) (proper : key.isProper = true)
    (spelled : source.toList = sectionsText parts ++ (name.written.toList ++ ':' :: '\n' ::
      (itemsText list ++ (itemChars front ++ (key.written.toList ++ ':' :: ' ' :: rest))))) :
    (∃ nodes ended further complete, StartWith list front key nodes ∧ (read source).root =
      .map (parts.map Section.node ++ (name.node, .list nodes ended) :: further) complete) ∨
      (read source).complete = false := by
  rcases begins_item earlier nameProper short nonempty listProper frontProper proper spelled with
    ⟨others, found⟩ | absent
  · have tokens : tokens source = .blockMap :: (parts.flatMap Section.tokens ++
        (name.tokens ++ .blockList :: (upToKey list front key ++ others))) := by
      rw [← found]
      simp [upToKey]
    have enough : (upToKey list front key).length + 8 ≤ (upToKey list front key ++ others).length + 8 := by
      simp
    obtain ⟨nodes, ended, further, left, starts, read⟩ :=
      entries_list parts name (upToKey list front key ++ others)
        (show _ ≤ 4 * (parts.flatMap Section.tokens ++
          (name.tokens ++ .blockList :: (upToKey list front key ++ others))).length + 7 by
            simp only [List.length_append, List.length_cons, Key.tokens]; omega)
        fun fuel few => items_begin list front key others (Nat.le_trans enough few)
    refine .inl ⟨nodes, ended, further, left.isSome, starts, ?_⟩
    rw [read_root tokens, read]
  · exact .inr (incomplete_of_absent absent)

end Templating.Yaml
