import ServiceMesh.Json.Reader
import ServiceMesh.Proofs.Json.Lexing

/-!
# Printed values are read back

A value that is printed and read again is the same value, apart from numbers in floating point:
what the reader makes of a printed number need not be that number. A printed value is read from its
beginning, whatever comes after it, so the reader can be followed from a value to its elements.
-/

namespace ServiceMesh.Json

/-! ## What reading leaves of a value -/

/-- What the reader makes of a number that was printed. -/
def rereadFloat (x : Float) : Option Json :=
  match Decimal.shortestText? x with
  | none => some .null
  | some text => (Numeral.read text.toList).bind Numeral.value?

mutual

/-- What the reader makes of a value that was printed. -/
def reread : Json → Option Json
  | .float x => rereadFloat x
  | .arr items => (rereadItems items).map .arr
  | .obj fields => (rereadFields fields).map .obj
  | value => some value

def rereadItems : List Json → Option (List Json)
  | [] => some []
  | item :: rest => (reread item).bind fun w => (rereadItems rest).map (w :: ·)

def rereadFields : List (String × Json) → Option (List (String × Json))
  | [] => some []
  | (name, value) :: rest =>
    (reread value).bind fun w => (rereadFields rest).map ((name, w) :: ·)

end

/-- A value of so many levels that the reader has room for: integers have 64 bits, signed or
unsigned, and no name is there twice. -/
inductive Fits : Nat → Json → Prop
  | null {n : Nat} : Fits n .null
  | bool {n : Nat} (b : Bool) : Fits n (.bool b)
  | int {n : Nat} {k : Int} (low : -9_223_372_036_854_775_808 ≤ k)
      (high : k < 18_446_744_073_709_551_616) : Fits n (.int k)
  | float {n : Nat} (x : Float) : Fits n (.float x)
  | str {n : Nat} (s : String) : Fits n (.str s)
  | arr {n : Nat} {items : List Json} (each : ∀ v ∈ items, Fits n v) : Fits (n + 1) (.arr items)
  | obj {n : Nat} {fields : List (String × Json)} (distinct : (fields.map Prod.fst).Nodup)
      (each : ∀ f ∈ fields, Fits n f.2) : Fits (n + 1) (.obj fields)

/-- A layout that puts nothing but white space between the tokens. -/
structure Layout.Blank (layout : Layout) : Prop where
  lineBreak : ∀ level, ∀ c ∈ (layout.lineBreak level).toList, isSpace c = true
  afterColon : ∀ c ∈ layout.afterColon.toList, isSpace c = true

theorem Layout.blank_pretty : Layout.pretty.Blank where
  lineBreak level c mem := by
    have kinds : c = '\n' ∨ level ≠ 0 ∧ c = ' ' := by
      simpa [pretty, toList_pushn, List.mem_replicate] using mem
    rcases kinds with rfl | ⟨-, rfl⟩ <;> decide
  afterColon := forall_mem_of_all (by decide)

/-! ## The machine on characters -/

/-- Read on from the state of a machine. -/
def readFrom (m : Machine) (cs : List Char) : Option Machine := (tokens cs).bind m.run

variable {m : Machine} {cs rest : List Char} {layout : Layout} {n : Nat} {v : Json}
  {stack : List Frame}

/-- The value that a machine has read, if it is whole. -/
def Machine.finished? (m : Machine) : Option Json :=
  match m.awaiting with
  | .finished value => some value
  | _ => none

theorem read?_eq (s : String) :
    read? s = (readFrom ⟨[], .value⟩ s.toList).bind Machine.finished? := by
  rw [read?, readFrom, Option.bind_assoc]
  rfl

/-- A token is one step of the machine. -/
theorem readFrom_token {token : Token} (first : tokens cs = (tokens rest).map (token :: ·)) :
    readFrom m cs = (m.step token).bind (readFrom · rest) := by
  rw [readFrom, first]
  cases found : tokens rest with
  | none => cases m.step token <;> simp [readFrom, found]
  | some ts =>
    rw [Option.map_some, Option.bind_some, Machine.run, List.foldlM_cons]
    cases m.step token with
    | none => rfl
    | some next => simp [readFrom, found, Machine.run]

/-- A number is one step, if it can be read at all. -/
theorem readFrom_number (number : Numeric cs) (stops : Stops rest) :
    readFrom m (cs ++ rest) = ((Numeral.read cs).bind Numeral.value?).bind fun value =>
      (m.step (.scalar value)).bind (readFrom · rest) := by
  have first := tokens_number number stops
  cases value : (Numeral.read cs).bind Numeral.value? with
  | none =>
    rw [value] at first
    rw [readFrom, first]
    rfl
  | some value' =>
    rw [value] at first
    rw [readFrom_token first, Option.bind_some]

theorem readFrom_space (blank : ∀ c ∈ cs, isSpace c = true) :
    readFrom m (cs ++ rest) = readFrom m rest := by
  rw [readFrom, tokens_append_of_space blank, readFrom]

/-- The marks between the pieces are tokens of their own. -/
inductive Marks : Char → Token → Prop
  | openArr : Marks '[' .openArr
  | closeArr : Marks ']' .closeArr
  | openObj : Marks '{' .openObj
  | closeObj : Marks '}' .closeObj
  | comma : Marks ',' .comma
  | colon : Marks ':' .colon

theorem readFrom_mark {c : Char} {token : Token} (mark : Marks c token) :
    readFrom m (c :: rest) = (m.step token).bind (readFrom · rest) := by
  apply readFrom_token
  cases mark <;> simp [tokens, isSpace]

/-- The machine waits for a value. -/
def Machine.Ready (m : Machine) : Prop := m.awaiting = .value ∨ m.awaiting = .element

theorem Machine.Ready.step {token : Token} (ready : m.Ready) (opens : token ≠ .closeArr) :
    m.step token = Machine.begin token m.stack := by
  obtain ⟨stack, awaiting⟩ := m
  rcases ready with rfl | rfl
  · rfl
  · cases token <;> first | rfl | exact absurd rfl opens

/-- Where there is room, a container is opened. -/
theorem Machine.push_of_room {frame : Frame} {awaiting : Awaiting}
    (room : stack.length + (n + 1) ≤ depthLimit) :
    push frame awaiting stack = some ⟨frame :: stack, awaiting⟩ := by
  apply if_pos
  omega

/-! ## Values -/

theorem stops_of_space (blank : ∀ c ∈ cs, isSpace c = true) (stops : Stops rest) :
    Stops (cs ++ rest) := by
  cases cs with
  | nil => exact stops
  | cons c cs =>
    have space := blank c List.mem_cons_self
    intro d mem
    cases mem
    simp only [isSpace, Bool.or_eq_true, beq_iff_eq] at space
    obtain ((rfl | rfl) | rfl) | rfl := space <;> decide

theorem stops_cons {c : Char} (mark : c ∈ "]\x7d,".toList) (rest : List Char) :
    Stops (c :: rest) := by
  have marks : ∀ c ∈ "]\x7d,".toList, isNumberChar c = false ∧ c.isAlpha = false :=
    forall_mem_of_all (by decide)
  intro d mem
  cases mem
  exact marks c mark

/-- A value is read from its beginning and is delivered, whatever comes after it. -/
def ReadsBack (layout : Layout) (n : Nat) (v : Json) : Prop :=
  ∀ (level : Nat) (m : Machine) (rest : List Char), m.Ready →
    m.stack.length + n ≤ Machine.depthLimit → Stops rest →
    readFrom m ((render layout level v).toList ++ rest) =
      (reread v).bind fun w => readFrom (Machine.deliver w m.stack) rest

/-- The elements after the first one, each behind its comma. -/
def behindCommas (texts : List String) : List Char := texts.flatMap fun text => ',' :: text.toList

theorem toList_intercalate_cons (first : String) (rest : List String) :
    (",".intercalate (first :: rest)).toList = first.toList ++ behindCommas rest := by
  induction rest generalizing first with
  | nil => simp [behindCommas]
  | cons second rest ih =>
    rw [String.intercalate_cons_cons, String.toList_append, String.toList_append, ih second]
    simp [behindCommas]

theorem stops_behindCommas {texts : List String} (stops : Stops rest) :
    Stops (behindCommas texts ++ rest) := by
  cases texts with
  | nil => exact stops
  | cons text texts => exact stops_cons (by decide) _

/-- An element is read behind its line break. -/
theorem readFrom_item (blank : layout.Blank) (back : ReadsBack layout n v) {level : Nat}
    (ready : m.Ready) (room : m.stack.length + n ≤ Machine.depthLimit) (stops : Stops rest) :
    readFrom m ((layout.lineBreak level ++ render layout level v).toList ++ rest) =
      (reread v).bind fun w => readFrom (Machine.deliver w m.stack) rest := by
  rw [String.toList_append, List.append_assoc, readFrom_space (blank.lineBreak level)]
  exact back level m rest ready room stops

/-- The elements after the first one and the end of the array. -/
theorem readFrom_items (blank : layout.Blank) {items : List Json}
    (back : ∀ v ∈ items, ReadsBack layout n v) (level : Nat) (read : List Json)
    (room : stack.length + 1 + n ≤ Machine.depthLimit)
    (close : ∀ c ∈ cs, isSpace c = true) :
    readFrom ⟨.arr read :: stack, .separator⟩
        (behindCommas (renderItems layout level items) ++ (cs ++ ']' :: rest)) =
      (rereadItems items).bind fun ws =>
        readFrom (Machine.deliver (.arr (read.reverse ++ ws)) stack) rest := by
  induction items generalizing read with
  | nil =>
    rw [renderItems, behindCommas, List.flatMap_nil, List.nil_append, readFrom_space close,
      readFrom_mark .closeArr, rereadItems, Option.bind_some, List.append_nil]
    rfl
  | cons v items ih =>
    obtain ⟨first, others⟩ := List.forall_mem_cons.mp back
    have stops : Stops (behindCommas (renderItems layout level items) ++ (cs ++ ']' :: rest)) :=
      stops_behindCommas (stops_of_space close (stops_cons (by decide) rest))
    rw [renderItems, behindCommas, List.flatMap_cons, List.cons_append, List.cons_append,
      List.append_assoc, readFrom_mark .comma]
    show readFrom ⟨.arr read :: stack, .value⟩ _ = _
    rw [← behindCommas, readFrom_item blank first (.inl rfl) (by simpa using room) stops,
      rereadItems]
    cases reread v with
    | none => rfl
    | some w =>
      rw [Option.bind_some, Option.bind_some]
      show readFrom ⟨.arr (w :: read) :: stack, .separator⟩ _ = _
      rw [ih others]
      cases rereadItems items <;> simp

/-- A field is read behind its line break. -/
theorem readFrom_field (blank : layout.Blank) (back : ReadsBack layout n v) {level : Nat}
    {name last : String} {fields : List (String × Json)} {awaiting : Awaiting}
    (named : awaiting = .member ∨ awaiting = .name)
    (room : stack.length + 1 + n ≤ Machine.depthLimit) (stops : Stops rest) :
    readFrom ⟨.obj fields last :: stack, awaiting⟩
        ((layout.lineBreak level ++ quoted name ++ ":" ++ layout.afterColon ++
          render layout level v).toList ++ rest) =
      (reread v).bind fun w =>
        readFrom ⟨.obj (setField name w fields) name :: stack, .separator⟩ rest := by
  have step : Machine.step ⟨.obj fields last :: stack, awaiting⟩ (.str name) =
      some ⟨.obj fields name :: stack, .colon⟩ := by
    rcases named with rfl | rfl <;> rfl
  simp only [String.toList_append, List.append_assoc]
  rw [readFrom_space (blank.lineBreak level), readFrom_token (tokens_quoted name _), step,
    Option.bind_some]
  show readFrom _
    (':' :: (layout.afterColon.toList ++ ((render layout level v).toList ++ rest))) = _
  rw [readFrom_mark .colon]
  show readFrom ⟨.obj fields name :: stack, .value⟩ _ = _
  rw [readFrom_space blank.afterColon, back level _ rest (.inl rfl) (by simpa using room) stops]
  rfl

/-- A name that is new is put at the end. -/
theorem setField_of_not_mem {name : String} {value : Json} {fields : List (String × Json)}
    (new : name ∉ fields.map Prod.fst) :
    setField name value fields = fields ++ [(name, value)] := by
  induction fields with
  | nil => rfl
  | cons field fields ih =>
    obtain ⟨other, w⟩ := field
    simp only [List.map_cons, List.mem_cons, not_or] at new
    rw [setField, if_neg (Ne.symm new.1), ih new.2, List.cons_append]

/-- The fields after the first one and the end of the object. -/
theorem readFrom_fields (blank : layout.Blank) {fields : List (String × Json)}
    (back : ∀ f ∈ fields, ReadsBack layout n f.2) (level : Nat) (read : List (String × Json))
    (last : String) (distinct : (read.map Prod.fst ++ fields.map Prod.fst).Nodup)
    (room : stack.length + 1 + n ≤ Machine.depthLimit)
    (close : ∀ c ∈ cs, isSpace c = true) :
    readFrom ⟨.obj read last :: stack, .separator⟩
        (behindCommas (renderFields layout level fields) ++ (cs ++ '}' :: rest)) =
      (rereadFields fields).bind fun ws =>
        readFrom (Machine.deliver (.obj (read ++ ws)) stack) rest := by
  induction fields generalizing read last with
  | nil =>
    rw [renderFields, behindCommas, List.flatMap_nil, List.nil_append, readFrom_space close,
      readFrom_mark .closeObj, rereadFields, Option.bind_some, List.append_nil]
    rfl
  | cons field fields ih =>
    obtain ⟨name, v⟩ := field
    obtain ⟨first, others⟩ := List.forall_mem_cons.mp back
    have stops : Stops (behindCommas (renderFields layout level fields) ++ (cs ++ '}' :: rest)) :=
      stops_behindCommas (stops_of_space close (stops_cons (by decide) rest))
    have new : name ∉ read.map Prod.fst := by
      rw [List.map_cons, List.perm_middle.nodup_iff, List.nodup_cons] at distinct
      exact fun mem => distinct.1 (List.mem_append_left _ mem)
    rw [renderFields, behindCommas, List.flatMap_cons, List.cons_append, List.cons_append,
      List.append_assoc, readFrom_mark .comma]
    show readFrom ⟨.obj read last :: stack, .name⟩ _ = _
    rw [← behindCommas, readFrom_field blank first (.inr rfl) room stops, rereadFields]
    cases reread v with
    | none => rfl
    | some w =>
      rw [Option.bind_some, Option.bind_some, setField_of_not_mem new, ih others]
      · cases rereadFields fields <;> simp
      · simpa using distinct

/-- A scalar is delivered at once. -/
theorem readFrom_scalar {w : Json} (ready : m.Ready)
    (first : tokens cs = (tokens rest).map (.scalar w :: ·)) :
    readFrom m cs = readFrom (Machine.deliver w m.stack) rest := by
  rw [readFrom_token first, ready.step (by simp)]
  rfl

/-- A number in floating point is delivered as the reader makes it out. -/
theorem readsBack_float (x : Float) : ReadsBack layout n (.float x) := by
  intro level m rest ready room stops
  rw [render, reread, rereadFloat]
  cases text : Decimal.shortestText? x with
  | none => exact readFrom_scalar ready (tokens_null stops)
  | some text' =>
    show readFrom m (text'.toList ++ rest) = _
    rw [readFrom_number (numeric_shortestText? text) stops]
    apply Option.bind_congr
    intro w _
    rw [ready.step (by simp)]
    rfl

theorem readsBack_arr (blank : layout.Blank) {items : List Json}
    (back : ∀ v ∈ items, ReadsBack layout n v) : ReadsBack layout (n + 1) (.arr items) := by
  intro level m rest ready room stops
  have opened : m.step .openArr = some ⟨.arr [] :: m.stack, .element⟩ :=
    (ready.step (by simp)).trans (Machine.push_of_room room)
  have inside : m.stack.length + 1 + n ≤ Machine.depthLimit := by omega
  cases items with
  | nil =>
    rw [render]
    show readFrom m ('[' :: ']' :: rest) = _
    rw [readFrom_mark .openArr, opened, Option.bind_some, readFrom_mark .closeArr]
    rfl
  | cons v items =>
    obtain ⟨first, others⟩ := List.forall_mem_cons.mp back
    have close := blank.lineBreak level
    have stop : Stops (behindCommas (renderItems layout (level + 1) items) ++
        ((layout.lineBreak level).toList ++ ']' :: rest)) :=
      stops_behindCommas (stops_of_space close (stops_cons (by decide) rest))
    have text : (render layout level (.arr (v :: items))).toList ++ rest =
        '[' :: ((layout.lineBreak (level + 1) ++ render layout (level + 1) v).toList ++
          (behindCommas (renderItems layout (level + 1) items) ++
            ((layout.lineBreak level).toList ++ ']' :: rest))) := by
      rw [render, String.toList_append, String.toList_append, String.toList_append, renderItems,
        toList_intercalate_cons]
      · simp
      · simp
    rw [text, readFrom_mark .openArr, opened, Option.bind_some,
      readFrom_item blank first (.inr rfl) (by simpa using inside) stop, reread, rereadItems]
    cases reread v with
    | none => rfl
    | some w =>
      rw [Option.bind_some, Option.bind_some]
      show readFrom ⟨.arr [w] :: m.stack, .separator⟩ _ = _
      rw [readFrom_items blank others _ _ inside close]
      cases rereadItems items <;> rfl

theorem readsBack_obj (blank : layout.Blank) {fields : List (String × Json)}
    (distinct : (fields.map Prod.fst).Nodup) (back : ∀ f ∈ fields, ReadsBack layout n f.2) :
    ReadsBack layout (n + 1) (.obj fields) := by
  intro level m rest ready room stops
  have opened : m.step .openObj = some ⟨.obj [] "" :: m.stack, .member⟩ :=
    (ready.step (by simp)).trans (Machine.push_of_room room)
  have inside : m.stack.length + 1 + n ≤ Machine.depthLimit := by omega
  cases fields with
  | nil =>
    rw [render]
    show readFrom m ('{' :: '}' :: rest) = _
    rw [readFrom_mark .openObj, opened, Option.bind_some, readFrom_mark .closeObj]
    rfl
  | cons field fields =>
    obtain ⟨name, v⟩ := field
    obtain ⟨first, others⟩ := List.forall_mem_cons.mp back
    have close := blank.lineBreak level
    have stop : Stops (behindCommas (renderFields layout (level + 1) fields) ++
        ((layout.lineBreak level).toList ++ '}' :: rest)) :=
      stops_behindCommas (stops_of_space close (stops_cons (by decide) rest))
    have text : (render layout level (.obj ((name, v) :: fields))).toList ++ rest =
        '{' :: ((layout.lineBreak (level + 1) ++ quoted name ++ ":" ++ layout.afterColon ++
            render layout (level + 1) v).toList ++
          (behindCommas (renderFields layout (level + 1) fields) ++
            ((layout.lineBreak level).toList ++ '}' :: rest))) := by
      rw [render, String.toList_append, String.toList_append, String.toList_append, renderFields,
        toList_intercalate_cons]
      · simp
      · simp
    rw [text, readFrom_mark .openObj, opened, Option.bind_some,
      readFrom_field blank first (.inl rfl) inside stop, reread, rereadFields]
    cases reread v with
    | none => rfl
    | some w =>
      rw [Option.bind_some, Option.bind_some]
      show readFrom ⟨.obj [(name, w)] name :: m.stack, .separator⟩ _ = _
      rw [readFrom_fields blank others (level + 1) [(name, w)] name distinct inside close]
      cases rereadFields fields <;> rfl

/-- A printed value is read back, apart from its numbers in floating point, from every state in
which the machine waits for a value and has room for it. -/
theorem readsBack (blank : layout.Blank) (fits : Fits n v) : ReadsBack layout n v := by
  induction fits with
  | null => exact fun level m rest ready room stops => readFrom_scalar ready (tokens_null stops)
  | bool b =>
    intro level m rest ready room stops
    have text : render layout level (.bool b) = if b then "true" else "false" := by
      cases b <;> rfl
    rw [text]
    exact readFrom_scalar ready (tokens_bool b stops)
  | int low high =>
    intro level m rest ready room stops
    rw [render, readFrom_number (numeric_toString _) stops, read_toString low high,
      Option.bind_some, ready.step (by simp)]
    rfl
  | float x => exact readsBack_float x
  | str s =>
    intro level m rest ready room stops
    rw [render, readFrom_token (tokens_quoted s rest), ready.step (by simp)]
    rfl
  | arr each back => exact readsBack_arr blank back
  | obj distinct each back => exact readsBack_obj blank distinct back

/-- A whole text that holds a printed value and white space after it is read. -/
theorem read?_render (blank : layout.Blank) (fits : Fits Machine.depthLimit v) {after : String}
    (space : ∀ c ∈ after.toList, isSpace c = true) :
    read? (render layout 0 v ++ after) = reread v := by
  have stops : Stops (after.toList ++ []) := stops_of_space space nofun
  have back := readsBack blank fits 0 ⟨[], .value⟩ (after.toList ++ []) (.inl rfl) (by simp) stops
  rw [List.append_nil] at back
  rw [read?_eq, String.toList_append, back]
  cases reread v with
  | none => rfl
  | some w =>
    rw [Option.bind_some, ← List.append_nil after.toList, readFrom_space space, readFrom, tokens]
    rfl

end ServiceMesh.Json
