import AtomicKv.Proofs.Digits
import AtomicKv.Proofs.Utf8Exact
import AtomicKv.Value.Wire

/-!
# The wire form of values is exact

A value is read off a byte string exactly when the byte string begins with its wire form
(`ofWire_eq_ok_iff`). The lengths in a wire form have eight bytes each, so this is about values
whose lengths are 64-bit numbers (`Sized`), and no others are ever read. Each reading function
has one law that says what it yields on which input; the law of values is by induction on the
length of the input, and the items of a sequence are shorter inputs than the sequence.
-/
namespace AtomicKv.Value

/-- The length that a value is written behind: of its data, of its text in UTF-8, or the
number of its items; none for a number or a flag. -/
def extent : Value → Nat
  | .bytes data => data.length
  | .str text | .atom text => (Utf8.encode text).length
  | .int _ | .bool _ => 0
  | .list items | .tuple items => items.length

/-- Every length and every number of items in a value is a 64-bit number. -/
inductive Sized : Value → Prop where
  | intro {v : Value} (extent_lt : v.extent < 2 ^ 64) (items : ∀ w ∈ v.items, Sized w) : Sized v

theorem sized_iff {v : Value} : v.Sized ↔ v.extent < 2 ^ 64 ∧ ∀ w ∈ v.items, w.Sized :=
  ⟨fun ⟨extent_lt, items⟩ => ⟨extent_lt, items⟩, fun ⟨extent_lt, items⟩ => ⟨extent_lt, items⟩⟩

theorem sized_bytes {data : Bytes} : (bytes data).Sized ↔ data.length < 2 ^ 64 := by
  rw [sized_iff]
  simp [extent, items]

theorem sized_str {text : String} : (str text).Sized ↔ (Utf8.encode text).length < 2 ^ 64 := by
  rw [sized_iff]
  simp [extent, items]

theorem sized_int (number : Int64) : (int number).Sized := by
  rw [sized_iff]
  simp [extent, items]

theorem sized_bool (flag : Bool) : (bool flag).Sized := by
  rw [sized_iff]
  simp [extent, items]

theorem sized_atom {name : String} : (atom name).Sized ↔ (Utf8.encode name).length < 2 ^ 64 := by
  rw [sized_iff]
  simp [extent, items]

theorem sized_list {vs : List Value} :
    (list vs).Sized ↔ vs.length < 2 ^ 64 ∧ ∀ v ∈ vs, v.Sized := by
  rw [sized_iff, extent, items]

theorem sized_tuple {vs : List Value} :
    (tuple vs).Sized ↔ vs.length < 2 ^ 64 ∧ ∀ v ∈ vs, v.Sized := by
  rw [sized_iff, extent, items]

def wireBody (v : Value) : Bytes :=
  (match v with
    | .bytes data => wireBlock data
    | .str text => wireBlock (Utf8.encode text)
    | .int number => Bytes.littleEndian 8 number.toUInt64.toNat
    | .bool flag => [if flag then 1 else 0]
    | .atom name => wireBlock (Utf8.encode name)
    | .list items | .tuple items => Bytes.littleEndian 8 items.length) ++ v.items.flatMap wire

theorem wire_eq_body (v : Value) : v.wire = Bytes.littleEndian 4 v.variant ++ v.wireBody := by
  rw [wire_eq, wireBody.eq_def, ← List.append_assoc]
  rfl

theorem wire_ne_nil (v : Value) : v.wire ≠ [] := by
  intro empty
  have length := congrArg List.length empty
  rw [wire_eq_body, List.length_append, Bytes.length_littleEndian, List.length_nil] at length
  omega

/-- An item takes up part of the wire form of its sequence, behind the kind number. -/
theorem length_wire_item {v w : Value} (item : w ∈ v.items) :
    w.wire.length + 4 ≤ v.wire.length := by
  have part : w.wire.Sublist (v.items.flatMap wire) := by
    rw [List.flatMap_def]
    exact List.sublist_flatten_of_mem (List.mem_map_of_mem item)
  have shorter := part.length_le
  rw [wire_eq v, wireHead.eq_def v, List.length_append, List.length_append,
    Bytes.length_littleEndian]
  omega

theorem length_le_length_flatMap_wire (vs : List Value) :
    vs.length ≤ (vs.flatMap wire).length := by
  induction vs with
  | nil => exact Nat.zero_le _
  | cons v vs ih =>
    have positive := List.length_pos_iff.mpr v.wire_ne_nil
    rw [List.flatMap_cons, List.length_append, List.length_cons]
    omega

/-- What a length announces takes up at least so many bytes. -/
theorem extent_le_length_wire (v : Value) : v.extent ≤ v.wire.length := by
  have items := length_le_length_flatMap_wire v.items
  have body : v.extent ≤ v.wireBody.length := by
    cases v <;> simp [extent, wireBody, wireBlock, Value.items] at items ⊢ <;> omega
  rw [wire_eq_body, List.length_append]
  omega

/-- A value with a short wire form has short parts. -/
theorem sized_of_length_wire {v : Value} (short : v.wire.length < 2 ^ 64) : v.Sized := by
  induction bound : v.wire.length using Nat.strongRecOn generalizing v with
  | ind n ih =>
    apply Sized.intro
    · exact Nat.lt_of_le_of_lt v.extent_le_length_wire short
    · intro w item
      have shorter := length_wire_item item
      exact ih w.wire.length (by omega) (by omega) rfl

theorem variant_lt (v : Value) : v.variant < 256 ^ 4 := by
  cases v <;> simp [variant]

/-- A reading succeeds with this result and leaves this rest. -/
def Yields {α : Type} {used : Nat} {input : Bytes} (r : Reading α used input) (a : α)
    (rest : Bytes) : Prop :=
  match r with
  | .error _ => False
  | .ok (b, left) => b = a ∧ left.val = rest

section Yields

variable {α : Type} {used : Nat} {input : Bytes}

@[simp] theorem not_yields_error {fault : WireFault} {a : α} {rest : Bytes} :
    ¬ Yields (.error fault : Reading α used input) a rest :=
  id

@[simp] theorem yields_ok {a b : α} {rest : Bytes}
    {left : { rest : Bytes // rest.length + used ≤ input.length }} :
    Yields (.ok (b, left) : Reading α used input) a rest ↔ b = a ∧ left.val = rest :=
  Iff.rfl

end Yields

theorem readNumber_yields {width n : Nat} {input rest : Bytes} :
    Yields (readNumber width input) n rest ↔
      input = Bytes.littleEndian width n ++ rest ∧ n < 256 ^ width := by
  rw [← Bytes.cut?_littleEndian_iff, readNumber]
  split
  · rename_i short
    simp [short]
  · rename_i digits left found
    constructor
    · intro h
      obtain ⟨value, rfl⟩ := h
      exact ⟨digits, found, value⟩
    · intro h
      obtain ⟨digits', found', value⟩ := h
      rw [found] at found'
      cases found'
      exact ⟨value, rfl⟩

theorem readBlock_steps {short : WireFault} {input data rest : Bytes} :
    Yields (readBlock short input) data rest ↔ ∃ length body,
      Yields (readNumber 8 input) length body ∧ Bytes.cut? length body = some (data, rest) := by
  rw [readBlock]
  cases readNumber 8 input with
  | error fault => simp
  | ok found =>
    obtain ⟨length, body, bound⟩ := found
    dsimp only
    split
    · rename_i none_cut
      simp [none_cut]
    · rename_i front left cut
      simp [and_assoc, cut]

theorem readBlock_yields {short : WireFault} {input data rest : Bytes} :
    Yields (readBlock short input) data rest ↔
      input = wireBlock data ++ rest ∧ data.length < 2 ^ 64 := by
  simp only [readBlock_steps, readNumber_yields, Bytes.cut?_eq_some]
  constructor
  · intro h
    obtain ⟨length, body, ⟨rfl, small⟩, rfl, rfl⟩ := h
    exact ⟨(List.append_assoc _ _ _).symm, small⟩
  · intro h
    obtain ⟨rfl, small⟩ := h
    exact ⟨data.length, data ++ rest, ⟨List.append_assoc _ _ _, small⟩, rfl, rfl⟩

theorem readText_steps {input rest : Bytes} {text : String} :
    Yields (readText input) text rest ↔
      ∃ data, Yields (readBlock .shortText input) data rest ∧ Utf8.decode data = .ok text := by
  rw [readText]
  cases readBlock .shortText input with
  | error fault => simp
  | ok found =>
    obtain ⟨data, left⟩ := found
    dsimp only
    cases decoded : Utf8.decode data with
    | error fault => simp [and_assoc, decoded]
    | ok text' => simp [and_assoc, decoded, and_comm]

theorem readText_yields {input rest : Bytes} {text : String} :
    Yields (readText input) text rest ↔
      input = wireBlock (Utf8.encode text) ++ rest ∧ (Utf8.encode text).length < 2 ^ 64 := by
  simp only [readText_steps, readBlock_yields, Utf8.decode_eq_ok_iff]
  constructor
  · intro h
    obtain ⟨data, read, rfl⟩ := h
    exact read
  · intro read
    exact ⟨Utf8.encode text, read, rfl⟩

theorem readFlag_yields {input rest : Bytes} {flag : Bool} :
    Yields (readFlag input) flag rest ↔ input = (if flag then 1 else 0) :: rest := by
  cases input with
  | nil => simp [readFlag]
  | cons b left =>
    rw [readFlag, List.cons.injEq]
    by_cases zero : b = 0
    · cases flag <;> simp [zero]
    · by_cases one : b = 1
      · cases flag <;> simp [one]
      · cases flag <;> simp [zero, one]

/-- Values are read exactly off inputs that are shorter than a bound: what the induction on
the length of the input supposes. -/
def ReadsBelow (bound : Nat) : Prop :=
  ∀ input : Bytes, input.length < bound → ∀ v rest,
    Yields (readValue input) v rest ↔ input = v.wire ++ rest ∧ v.Sized

theorem readItems_steps {whole input rest : Bytes} {count : Nat} {found items : List Value}
    {within : input.length ≤ whole.length} :
    Yields (readItems whole (count + 1) found input within) items rest ↔ ∃ v left,
      Yields (readValue input) v left ∧ ∃ within' : left.length ≤ whole.length,
        Yields (readItems whole count (v :: found) left within') items rest := by
  rw [readItems]
  cases readValue input with
  | error fault => simp
  | ok next =>
    obtain ⟨v, left, shorter⟩ := next
    have within' : left.length ≤ whole.length := by omega
    simp [and_assoc, within']

theorem readItems_yields {n : Nat} (reads : ReadsBelow n) {whole input rest : Bytes} {count : Nat}
    {found items : List Value} {within : input.length ≤ whole.length} (short : input.length < n) :
    Yields (readItems whole count found input within) items rest ↔
      ∃ more, items = found.reverse ++ more ∧ more.length = count ∧
        input = more.flatMap wire ++ rest ∧ ∀ v ∈ more, v.Sized := by
  induction count generalizing found input with
  | zero =>
    rw [readItems, yields_ok]
    constructor
    · intro h
      obtain ⟨rfl, rfl⟩ := h
      exact ⟨[], by simp⟩
    · intro h
      obtain ⟨more, rfl, none_left, split, -⟩ := h
      rw [List.length_eq_zero_iff.mp none_left] at split ⊢
      exact ⟨(List.append_nil _).symm, split⟩
  | succ count ih =>
    rw [readItems_steps]
    constructor
    · intro h
      obtain ⟨v, left, read, within', reads_more⟩ := h
      obtain ⟨rfl, sized⟩ := (reads input short v left).mp read
      rw [List.length_append] at short
      obtain ⟨more, rfl, rfl, rfl, all_sized⟩ := (ih (by omega)).mp reads_more
      refine ⟨v :: more, ?_, rfl, ?_, List.forall_mem_cons.mpr ⟨sized, all_sized⟩⟩
      · rw [List.reverse_cons, List.append_assoc, List.singleton_append]
      · rw [List.flatMap_cons, List.append_assoc]
    · intro h
      obtain ⟨more, rfl, length, rfl, all_sized⟩ := h
      cases more with
      | nil => cases length
      | cons v more =>
        obtain ⟨sized, more_sized⟩ := List.forall_mem_cons.mp all_sized
        rw [List.flatMap_cons, List.append_assoc] at short within
        have read := (reads _ short v (more.flatMap wire ++ rest)).mpr ⟨rfl, sized⟩
        rw [List.length_append] at short within
        refine ⟨v, more.flatMap wire ++ rest, ?_, by omega,
          (ih (by omega)).mpr ⟨more, ?_, Nat.succ.inj length, rfl, more_sized⟩⟩
        · rwa [List.flatMap_cons, List.append_assoc]
        · rw [List.reverse_cons, List.append_assoc, List.singleton_append]

theorem readSequence_steps {input rest : Bytes} {items : List Value} :
    Yields (readSequence input) items rest ↔ ∃ count body,
      Yields (readNumber 8 input) count body ∧ ∃ within : body.length ≤ input.length,
        Yields (readItems input count [] body within) items rest := by
  rw [readSequence]
  cases readNumber 8 input with
  | error fault => simp
  | ok found =>
    obtain ⟨count, body, bound⟩ := found
    have within : body.length ≤ input.length := by omega
    simp [and_assoc, within]

theorem readSequence_yields {n : Nat} (reads : ReadsBelow n) {input rest : Bytes}
    {items : List Value} (short : input.length < n) :
    Yields (readSequence input) items rest ↔
      input = Bytes.littleEndian 8 items.length ++ items.flatMap wire ++ rest ∧
        items.length < 2 ^ 64 ∧ ∀ v ∈ items, v.Sized := by
  rw [readSequence_steps]
  constructor
  · intro h
    obtain ⟨count, body, number, within, read⟩ := h
    obtain ⟨rfl, small⟩ := readNumber_yields.mp number
    rw [List.length_append] at short
    obtain ⟨more, rfl, rfl, rfl, all_sized⟩ := (readItems_yields reads (by omega)).mp read
    exact ⟨(List.append_assoc _ _ _).symm, small, all_sized⟩
  · intro h
    obtain ⟨rfl, small, all_sized⟩ := h
    rw [List.append_assoc] at short ⊢
    have number : Yields (readNumber 8 (Bytes.littleEndian 8 items.length ++
        (items.flatMap wire ++ rest))) items.length (items.flatMap wire ++ rest) :=
      readNumber_yields.mpr ⟨rfl, small⟩
    rw [List.length_append] at short
    exact ⟨_, _, number, by simp,
      (readItems_yields reads (by omega)).mpr ⟨items, rfl, rfl, rfl, all_sized⟩⟩

theorem content_yields {α : Type} {used : Nat} {body input rest : Bytes}
    {bound : body.length + 4 ≤ input.length} {make : α → Value} {r : Reading α used body}
    {v : Value} :
    Yields (Reading.content bound make r) v rest ↔ ∃ a, Yields r a rest ∧ make a = v := by
  cases r with
  | error fault => simp [Reading.content]
  | ok found =>
    obtain ⟨a, left, shorter⟩ := found
    simp only [Reading.content, yields_ok]
    constructor
    · intro h
      obtain ⟨made, same⟩ := h
      exact ⟨a, ⟨rfl, same⟩, made⟩
    · intro h
      obtain ⟨a, ⟨rfl, same⟩, made⟩ := h
      exact ⟨made, same⟩

/-- What is read behind a kind number, given that the values of that kind are those that can be
made from a content (`own`) and that contents are read exactly (`reads`). -/
theorem content_yields_of {α : Type} {used kind : Nat} {body input rest : Bytes}
    {bound : body.length + 4 ≤ input.length} {make : α → Value} {r : Reading α used body}
    {v : Value} (own : ∀ v, kind = v.variant ↔ ∃ a, make a = v)
    (reads : ∀ a, Yields r a rest ↔ body = (make a).wireBody ++ rest ∧ (make a).Sized) :
    Yields (Reading.content bound make r) v rest ↔
      (kind = v.variant ∧ body = v.wireBody ++ rest) ∧ v.Sized := by
  rw [content_yields, own, and_assoc]
  constructor
  · intro h
    obtain ⟨a, read, rfl⟩ := h
    exact ⟨⟨a, rfl⟩, (reads a).mp read⟩
  · intro h
    obtain ⟨⟨a, rfl⟩, content⟩ := h
    exact ⟨a, (reads a).mpr content, rfl⟩

/-- An integer is read from the number that its two's complement is. Numbers past 64 bits would
make integers too, so this is no case of `content_yields_of`. -/
theorem content_yields_int {input body rest : Bytes} {bound : body.length + 4 ≤ input.length}
    {v : Value} :
    Yields (Reading.content bound (fun n => .int (UInt64.ofNat n).toInt64) (readNumber 8 body)) v
      rest ↔ (2 = v.variant ∧ body = v.wireBody ++ rest) ∧ v.Sized := by
  simp only [content_yields, readNumber_yields]
  constructor
  · intro h
    obtain ⟨n, ⟨rfl, small⟩, rfl⟩ := h
    have kept : (UInt64.ofNat n).toInt64.toUInt64.toNat = n := by
      rw [UInt64.toUInt64_toInt64]
      exact UInt64.toNat_ofNat_of_lt small
    refine ⟨⟨rfl, ?_⟩, sized_int _⟩
    simp only [wireBody, items, kept, List.flatMap_nil, List.append_nil]
  · intro h
    obtain ⟨⟨kind, rfl⟩, -⟩ := h
    cases v <;> cases kind
    rename_i number
    refine ⟨number.toUInt64.toNat, ⟨?_, number.toUInt64.toNat_lt⟩, ?_⟩
    · simp [wireBody, items]
    · simp

/-- The value at the front of a byte string is read exactly when its wire form stands there. -/
theorem readValue_yields {input rest : Bytes} {v : Value} :
    Yields (readValue input) v rest ↔ input = v.wire ++ rest ∧ v.Sized := by
  induction bound : input.length using Nat.strongRecOn generalizing input v rest with
  | ind n ih =>
    have reads : ReadsBelow n := fun shorter short v rest => ih _ short rfl
    rw [wire_eq_body, List.append_assoc, readValue]
    cases number : readNumber 4 input with
    | error fault =>
      have none_read : ∀ k body, ¬ Yields (readNumber 4 input) k body := by
        rw [number]
        exact fun _ _ => not_yields_error
      simp only [not_yields_error, false_iff]
      intro h
      exact none_read _ _ (readNumber_yields.mpr ⟨h.1, v.variant_lt⟩)
    | ok found =>
      obtain ⟨kind, body, shorter⟩ := found
      have read : Yields (readNumber 4 input) kind body := by
        rw [number]
        exact ⟨rfl, rfl⟩
      obtain ⟨split, small⟩ := readNumber_yields.mp read
      have short : body.length < n := by omega
      have heads : input = Bytes.littleEndian 4 v.variant ++ (v.wireBody ++ rest) ↔
          kind = v.variant ∧ body = v.wireBody ++ rest := by
        rw [split, Bytes.littleEndian_append_inj small v.variant_lt]
      rw [heads]
      dsimp only
      -- one case for each kind number, in order, and one for the numbers of no kind
      split
      · refine content_yields_of (fun v => by cases v <;> simp [variant]) fun data => ?_
        rw [readBlock_yields, sized_bytes]
        simp [wireBody, items]
      · refine content_yields_of (fun v => by cases v <;> simp [variant]) fun text => ?_
        rw [readText_yields, sized_str]
        simp [wireBody, items]
      · exact content_yields_int
      · refine content_yields_of (fun v => by cases v <;> simp [variant]) fun flag => ?_
        rw [readFlag_yields]
        simp [wireBody, items, sized_bool]
      · refine content_yields_of (fun v => by cases v <;> simp [variant]) fun name => ?_
        rw [readText_yields, sized_atom]
        simp [wireBody, items]
      · refine content_yields_of (fun v => by cases v <;> simp [variant]) fun vs => ?_
        rw [readSequence_yields reads short, sized_list]
        simp [wireBody, items]
      · refine content_yields_of (fun v => by cases v <;> simp [variant]) fun vs => ?_
        rw [readSequence_yields reads short, sized_tuple]
        simp [wireBody, items]
      · rename_i other
        simp only [not_yields_error, false_iff]
        intro h
        obtain ⟨⟨rfl, -⟩, -⟩ := h
        cases v <;> simp_all [variant]

theorem ofWire_eq_ok_iff {bs : Bytes} {v : Value} :
    ofWire bs = .ok v ↔ v.Sized ∧ v.wire <+: bs := by
  have read : ∀ rest, Yields (readValue bs) v rest ↔ bs = v.wire ++ rest ∧ v.Sized :=
    fun rest => readValue_yields
  rw [ofWire]
  cases found : readValue bs with
  | error fault =>
    simp only [found, not_yields_error, false_iff] at read
    simp only [reduceCtorEq, false_iff]
    intro h
    obtain ⟨sized, rest, rfl⟩ := h
    exact read rest ⟨rfl, sized⟩
  | ok result =>
    obtain ⟨w, left⟩ := result
    simp only [found, yields_ok] at read
    simp only [Except.ok.injEq]
    constructor
    · intro same
      obtain ⟨split, sized⟩ := (read left.val).mp ⟨same, rfl⟩
      exact ⟨sized, left.val, split.symm⟩
    · intro h
      obtain ⟨sized, rest, split⟩ := h
      exact ((read rest).mpr ⟨split.symm, sized⟩).1

theorem ofWire_wire {v : Value} (sized : v.Sized) : ofWire v.wire = .ok v :=
  ofWire_eq_ok_iff.mpr ⟨sized, List.prefix_rfl⟩

/-- No wire form begins another one. -/
theorem eq_of_wire_begins {v w : Value} (hv : v.Sized) (hw : w.Sized) (h : v.wire <+: w.wire) :
    v = w := by
  have read : ofWire w.wire = .ok v := ofWire_eq_ok_iff.mpr ⟨hv, h⟩
  rw [ofWire_wire hw] at read
  exact (Except.ok.inj read).symm

theorem wire_inj {v w : Value} (hv : v.Sized) (hw : w.Sized) : v.wire = w.wire ↔ v = w := by
  constructor
  · intro same
    exact eq_of_wire_begins hv hw (same ▸ List.prefix_rfl)
  · intro same
    rw [same]

theorem eq_of_ofWire_beginning {v w : Value} {bs : Bytes} (hv : v.Sized) (front : bs <+: v.wire)
    (read : ofWire bs = .ok w) : bs = v.wire := by
  obtain ⟨hw, begins⟩ := ofWire_eq_ok_iff.mp read
  have same : w = v := eq_of_wire_begins hw hv (begins.trans front)
  rw [same] at begins
  exact front.eq_of_length_le begins.length_le

/-- The wire form of values is exact, canonical and prefix-free, whatever follows it. -/
theorem wire_exact (v : Value) :
    (∀ bs, ofWire bs = .ok v ↔ v.Sized ∧ ∃ trailing, bs = v.wire ++ trailing) ∧
      (v.Sized →
        ofWire v.wire = .ok v ∧
        (∀ bs, bs <+: v.wire → bs ≠ v.wire → ∃ fault, ofWire bs = .error fault) ∧
        ∀ w : Value, w.Sized → (v.wire <+: w.wire → v = w) ∧ (v.wireEq w = true ↔ v = w)) := by
  refine ⟨fun bs => ?_, fun sized => ⟨ofWire_wire sized, fun bs front proper => ?_, fun w hw => ?_⟩⟩
  · rw [ofWire_eq_ok_iff]
    constructor
    · intro h
      obtain ⟨sized, trailing, split⟩ := h
      exact ⟨sized, trailing, split.symm⟩
    · intro h
      obtain ⟨sized, trailing, split⟩ := h
      exact ⟨sized, trailing, split.symm⟩
  · cases read : ofWire bs with
    | error fault => exact ⟨fault, rfl⟩
    | ok w => exact absurd (eq_of_ofWire_beginning sized front read) proper
  · refine ⟨eq_of_wire_begins sized hw, ?_⟩
    rw [wireEq, decide_eq_true_iff, wire_inj sized hw]

/-- A list of a symbol and a flag in a tuple, beside the one with a string for the symbol. -/
theorem wire_exact_list :
    let v : Value := list [atom "ok", tuple [bool true]]
    let w : Value := list [str "ok", tuple [bool true]]
    v.Sized ∧ w.Sized ∧ ofWire v.wire = .ok v ∧
      (∃ fault, ofWire v.wire.dropLast = .error fault) ∧
      ¬ v.wire <+: w.wire ∧ v.wireEq w = false := by
  intro v w
  have flags : (tuple [bool true]).Sized := by
    simp [sized_tuple, sized_bool]
  have hv : v.Sized := by
    refine sized_list.mpr ⟨by decide, ?_⟩
    simp [sized_atom, flags]
    decide
  have hw : w.Sized := by
    refine sized_list.mpr ⟨by decide, ?_⟩
    simp [sized_str, flags]
    decide
  obtain ⟨whole, beginnings, others⟩ := (wire_exact v).2 hv
  have proper : v.wire.dropLast ≠ v.wire := by
    intro same
    have length := congrArg List.length same
    have positive := List.length_pos_iff.mpr v.wire_ne_nil
    rw [List.length_dropLast] at length
    omega
  have differ : v ≠ w := by simp [v, w]
  refine ⟨hv, hw, whole, beginnings _ (List.dropLast_prefix _) proper,
    fun front => differ ((others w hw).1 front), ?_⟩
  rw [← Bool.not_eq_true, (others w hw).2]
  exact differ

end AtomicKv.Value
