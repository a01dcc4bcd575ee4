import AtomicKv.Policy.Environment
import Mathlib.Data.List.TakeWhile

/-!
# Lists of nodes

A list of nodes is a text whose pieces between commas each are one node between blanks, or nothing
but blanks. This grammar (`Listing`) is what the reader goes by: it finds the nodes that a text
lists, and there is one way to list them (`parseNodes_eq_iff`). It does not matter how many blanks
stand around a node, nor how many commas between two, so a list of nodes is read from every text
that lists them (`parseNodes_of_listing`). Something is listed as soon as one piece holds a
character that is not blank (`parseNodes_ne_nil_iff`).
-/
namespace AtomicKv

def Blanks (cs : List Char) : Prop :=
  ∀ c ∈ cs, isBlank c = true

instance (cs : List Char) : Decidable (Blanks cs) :=
  decidable_of_iff (cs.all isBlank = true) List.all_eq_true

/-- No blank character at either end. -/
structure Bare (cs : List Char) : Prop where
  head : ∀ c ∈ cs.head?, isBlank c = false
  last : ∀ c ∈ cs.getLast?, isBlank c = false

theorem Blanks.reverse {cs : List Char} (blanks : Blanks cs) : Blanks cs.reverse :=
  fun c member => blanks c (List.mem_reverse.mp member)

theorem comma_not_mem_of_blanks {cs : List Char} (blanks : Blanks cs) : ',' ∉ cs := by
  intro member
  have blank := blanks ',' member
  revert blank
  decide

theorem dropWhile_of_head {cs : List Char} (head : ∀ c ∈ cs.head?, isBlank c = false) :
    cs.dropWhile isBlank = cs := by
  cases cs with
  | nil => rfl
  | cons c cs =>
    have visible : ¬ isBlank c = true := by
      rw [head c rfl]
      exact Bool.false_ne_true
    exact List.dropWhile_cons_of_neg visible

/-- Blanks around a bare text are trimmed off, and nothing else is. -/
theorem trim_of_parts {before core behind : List Char} (front : Blanks before) (bare : Bare core)
    (back : Blanks behind) : trim (before ++ core ++ behind) = core := by
  rw [trim, List.append_assoc, List.dropWhile_append_of_pos front]
  cases core with
  | nil =>
    rw [List.nil_append, List.dropWhile_eq_nil_iff.mpr back]
    rfl
  | cons c core =>
    have first : (c :: core ++ behind).dropWhile isBlank = c :: core ++ behind :=
      dropWhile_of_head bare.head
    have last : (c :: core).reverse.dropWhile isBlank = (c :: core).reverse :=
      dropWhile_of_head fun d member => bare.last d (List.head?_reverse ▸ member)
    rw [first, List.reverse_append, List.dropWhile_append_of_pos back.reverse, last,
      List.reverse_reverse]

/-- Every text is a bare one between blanks, which trimming leaves. -/
theorem exists_trim_parts (cs : List Char) :
    ∃ before behind, cs = before ++ trim cs ++ behind ∧ Blanks before ∧ Blanks behind ∧
      Bare (trim cs) := by
  let rest := cs.dropWhile isBlank
  have tail : rest = trim cs ++ (rest.reverse.takeWhile isBlank).reverse := by
    have split : rest.reverse.takeWhile isBlank ++ rest.reverse.dropWhile isBlank = rest.reverse :=
      List.takeWhile_append_dropWhile
    rw [trim, ← List.reverse_append, split, List.reverse_reverse]
  refine ⟨cs.takeWhile isBlank, (rest.reverse.takeWhile isBlank).reverse, ?_, ?_, ?_, ?_, ?_⟩
  · rw [List.append_assoc, ← tail]
    exact List.takeWhile_append_dropWhile.symm
  · exact fun c member => List.mem_takeWhile_imp member
  · exact Blanks.reverse fun c member => List.mem_takeWhile_imp member
  · intro c member
    have first : rest.head? = some c := by
      rw [tail, List.head?_append, Option.mem_def.mp member, Option.some_or]
    have dropped := List.head?_dropWhile_not isBlank cs
    rw [first] at dropped
    exact dropped
  · intro c member
    rw [trim, List.getLast?_reverse] at member
    have dropped := List.head?_dropWhile_not isBlank rest.reverse
    rw [Option.mem_def.mp member] at dropped
    exact dropped

theorem trim_eq_iff {cs core : List Char} :
    trim cs = core ↔
      ∃ before behind, cs = before ++ core ++ behind ∧ Blanks before ∧ Blanks behind ∧
        Bare core := by
  constructor
  · rintro rfl
    exact exists_trim_parts cs
  · rintro ⟨before, behind, rfl, front, back, bare⟩
    exact trim_of_parts front bare back

theorem trim_eq_nil_iff {cs : List Char} : trim cs = [] ↔ Blanks cs := by
  constructor
  · intro empty
    obtain ⟨before, behind, parts, front, back, _⟩ := trim_eq_iff.mp empty
    rw [parts, List.append_nil]
    exact List.forall_mem_append.mpr ⟨front, back⟩
  · intro blanks
    have parts : cs = cs ++ [] ++ [] := by rw [List.append_nil, List.append_nil]
    exact trim_eq_iff.mpr ⟨cs, [], parts, blanks, nofun, nofun, nofun⟩

/-- The pieces between commas are those of the library. -/
theorem splitAtCommas_eq_splitOn (cs : List Char) : splitAtCommas cs = cs.splitOn ',' := by
  induction cs with
  | nil => rfl
  | cons c rest ih =>
    rw [splitAtCommas, List.splitOn_cons_eq_if_modifyHead, ← ih]
    by_cases comma : c = ','
    · rw [if_pos comma, if_pos (beq_iff_eq.mpr comma)]
    · rw [if_neg comma, if_neg fun same => comma (beq_iff_eq.mp same)]
      cases pieces : splitAtCommas rest with
      | nil => exact absurd pieces (splitAtCommas_ne_nil rest)
      | cons piece pieces => rfl

theorem comma_not_mem_of_mem_splitOn {cs piece : List Char} (member : piece ∈ cs.splitOn ',') :
    ',' ∉ piece := by
  induction cs generalizing piece with
  | nil =>
    rw [List.mem_singleton.mp member]
    exact List.not_mem_nil
  | cons c cs ih =>
    rw [List.splitOn_cons_eq_if_modifyHead] at member
    split at member
    · rcases List.mem_cons.mp member with rfl | later
      · exact List.not_mem_nil
      · exact ih later
    · rename_i other
      -- the character joins the first of the pieces behind it
      obtain ⟨first, others, pieces⟩ := List.exists_cons_of_ne_nil (List.splitOn_ne_nil ',' cs)
      rw [pieces, List.modifyHead_cons] at member
      rw [pieces] at ih
      rcases List.mem_cons.mp member with rfl | later
      · have no_comma : ',' ≠ c := fun comma => other (beq_iff_eq.mpr comma.symm)
        exact List.not_mem_cons_of_ne_of_not_mem no_comma (ih List.mem_cons_self)
      · exact ih (List.mem_cons_of_mem first later)

namespace Environment

/-- A node as it is read off a list: not empty, without a comma and with no blank at either end. -/
structure IsNode (node : String) : Prop where
  some_char : node.toList ≠ []
  no_comma : ',' ∉ node.toList
  bare : Bare node.toList

/-- Pieces that list nodes: each node in its turn between blanks, and blank pieces anywhere. -/
inductive Listing : List (List Char) → List String → Prop
  | nil : Listing [] []
  | blank {piece : List Char} {pieces : List (List Char)} {nodes : List String}
    (blanks : Blanks piece) (others : Listing pieces nodes) : Listing (piece :: pieces) nodes
  | node {before behind : List Char} {node : String} {pieces : List (List Char)}
    {nodes : List String} (front : Blanks before) (back : Blanks behind)
    (others : Listing pieces nodes) :
    Listing ((before ++ node.toList ++ behind) :: pieces) (node :: nodes)

def nodesOf (pieces : List (List Char)) : List String :=
  (pieces.map trim).filterMap fun piece => if piece = [] then none else some (String.ofList piece)

theorem nodesOf_cons (piece : List Char) (pieces : List (List Char)) :
    nodesOf (piece :: pieces) =
      if trim piece = [] then nodesOf pieces else String.ofList (trim piece) :: nodesOf pieces := by
  rw [nodesOf, List.map_cons]
  split
  · rename_i empty
    exact List.filterMap_cons_none (if_pos empty)
  · rename_i some_char
    exact List.filterMap_cons_some (if_neg some_char)

/-- What is read off pieces without commas are nodes, and the pieces list them. -/
theorem listing_nodesOf {pieces : List (List Char)} (no_comma : ∀ piece ∈ pieces, ',' ∉ piece) :
    (∀ node ∈ nodesOf pieces, IsNode node) ∧ Listing pieces (nodesOf pieces) := by
  induction pieces with
  | nil => exact ⟨nofun, .nil⟩
  | cons piece pieces ih =>
    obtain ⟨first, others⟩ := List.forall_mem_cons.mp no_comma
    obtain ⟨nodes, listing⟩ := ih others
    obtain ⟨before, behind, parts, front, back, bare⟩ := exists_trim_parts piece
    rw [nodesOf_cons]
    split
    · rename_i empty
      exact ⟨nodes, .blank (trim_eq_nil_iff.mp empty) listing⟩
    · rename_i some_char
      have inside : ',' ∉ trim piece := by
        intro member
        rw [parts] at first
        exact first (List.mem_append_left behind (List.mem_append_right before member))
      have listed : Listing ((before ++ (String.ofList (trim piece)).toList ++ behind) :: pieces)
          (String.ofList (trim piece) :: nodesOf pieces) := .node front back listing
      rw [String.toList_ofList, ← parts] at listed
      refine ⟨List.forall_mem_cons.mpr ⟨⟨?_, ?_, ?_⟩, nodes⟩, listed⟩
      · rw [String.toList_ofList]
        exact some_char
      · rw [String.toList_ofList]
        exact inside
      · rw [String.toList_ofList]
        exact bare

/-- Pieces that list nodes have these read off them. -/
theorem nodesOf_of_listing {pieces : List (List Char)} {nodes : List String}
    (listing : Listing pieces nodes) (are_nodes : ∀ node ∈ nodes, IsNode node) :
    nodesOf pieces = nodes := by
  induction listing with
  | nil => rfl
  | blank blanks _ ih =>
    rw [nodesOf_cons, if_pos (trim_eq_nil_iff.mpr blanks)]
    exact ih are_nodes
  | node front back _ ih =>
    obtain ⟨first, others⟩ := List.forall_mem_cons.mp are_nodes
    rw [nodesOf_cons, trim_of_parts front first.bare back, if_neg first.some_char,
      String.ofList_toList, ih others]

theorem no_comma_of_listing {pieces : List (List Char)} {nodes : List String}
    (listing : Listing pieces nodes) (are_nodes : ∀ node ∈ nodes, IsNode node) :
    ∀ piece ∈ pieces, ',' ∉ piece := by
  induction listing with
  | nil => exact nofun
  | blank blanks _ ih =>
    exact List.forall_mem_cons.mpr ⟨comma_not_mem_of_blanks blanks, ih are_nodes⟩
  | node front back _ ih =>
    obtain ⟨first, others⟩ := List.forall_mem_cons.mp are_nodes
    refine List.forall_mem_cons.mpr ⟨?_, ih others⟩
    rw [List.mem_append, List.mem_append]
    rintro ((member | member) | member)
    · exact comma_not_mem_of_blanks front member
    · exact first.no_comma member
    · exact comma_not_mem_of_blanks back member

theorem nodesOf_eq_nil_iff {pieces : List (List Char)} :
    nodesOf pieces = [] ↔ ∀ piece ∈ pieces, Blanks piece := by
  induction pieces with
  | nil => exact ⟨nofun, fun _ => rfl⟩
  | cons piece pieces ih =>
    rw [nodesOf_cons, List.forall_mem_cons, ← trim_eq_nil_iff, ← ih]
    split
    · rename_i empty
      exact ⟨fun others => ⟨empty, others⟩, And.right⟩
    · rename_i some_char
      exact ⟨nofun, fun all => absurd all.1 some_char⟩

theorem parseNodes_eq (text : String) : parseNodes text = nodesOf (text.toList.splitOn ',') := by
  rw [parseNodes, splitAtCommas_eq_splitOn]
  rfl

/-- The nodes read off a text are those that its pieces list. -/
theorem parseNodes_eq_iff {text : String} {nodes : List String} :
    parseNodes text = nodes ↔
      (∀ node ∈ nodes, IsNode node) ∧ Listing (text.toList.splitOn ',') nodes := by
  rw [parseNodes_eq]
  constructor
  · rintro rfl
    exact listing_nodesOf fun piece member => comma_not_mem_of_mem_splitOn member
  · rintro ⟨are_nodes, listing⟩
    exact nodesOf_of_listing listing are_nodes

/-- Pieces that list nodes can be put together with commas, and the nodes are read again. -/
theorem parseNodes_of_listing {text : String} {pieces : List (List Char)} {nodes : List String}
    (joined : text.toList = [','].intercalate pieces) (listing : Listing pieces nodes)
    (are_nodes : ∀ node ∈ nodes, IsNode node) : parseNodes text = nodes := by
  rw [parseNodes_eq, joined]
  by_cases no_pieces : pieces = []
  · subst no_pieces
    cases listing
    rfl
  · rw [List.splitOn_intercalate ',' (no_comma_of_listing listing are_nodes) no_pieces]
    exact nodesOf_of_listing listing are_nodes

/-- Some piece between commas holds a character that is not blank. -/
def ListsNodes (text : String) : Prop :=
  ∃ piece ∈ text.toList.splitOn ',', ∃ c ∈ piece, isBlank c = false

/-- Nodes are read off the texts that list some. -/
theorem parseNodes_ne_nil_iff {text : String} : parseNodes text ≠ [] ↔ ListsNodes text := by
  rw [parseNodes_eq, ne_eq, nodesOf_eq_nil_iff]
  simp only [ListsNodes, Blanks, not_forall, exists_prop, Bool.not_eq_true]

end Environment
end AtomicKv
