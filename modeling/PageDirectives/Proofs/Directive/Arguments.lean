import Mathlib.Data.List.TakeWhile
import PageDirectives.Directive.Argument
import PageDirectives.Proofs.Directive.Opening
import PageDirectives.Proofs.Text.Search
/-!
Argument lines as they are written: pairs and words with a space between each two. A value may hold
anything that does not end it, whole pairs included, and a word is passed over because no equals
sign comes before the space behind it. So the pairs come back in order, and of each key the last
value is held; and nothing but blanks is left between the pairs exactly if there is no word.
-/
namespace PageDirectives

namespace Argument

/-- How the value of an argument is written. -/
inductive Quoting
  | bare
  | single
  | double
  deriving Repr, DecidableEq

namespace Quoting

/-- What stands on either side of the value. -/
def mark : Quoting → Text
  | bare => []
  | single => ['\'']
  | double => ['"']

def wrap (quoting : Quoting) (value : Text) : Text := quoting.mark ++ value ++ quoting.mark

/-- Whether a value can be written so: between quotes if it does not hold the quote, and else if it
is there, holds no blank and does not begin with a quote. -/
def Admits : Quoting → Text → Prop
  | bare, value =>
    value ≠ [] ∧ (∀ c ∈ value, Text.isBlank c = false) ∧
      ∀ c ∈ value.head?, c ≠ '"' ∧ c ≠ '\''
  | single, value => '\'' ∉ value
  | double, value => '"' ∉ value

instance : (quoting : Quoting) → (value : Text) → Decidable (quoting.Admits value)
  | bare, value =>
    -- the characters of the value, and not all characters that there are
    let _ := List.decidableBAll (Text.isBlank · = false) value
    let _ := Option.decidableForallMem (p := fun c => c ≠ '"' ∧ c ≠ '\'') value.head?
    inferInstanceAs (Decidable (_ ∧ _ ∧ _))
  | single, value => inferInstanceAs (Decidable ('\'' ∉ value))
  | double, value => inferInstanceAs (Decidable ('"' ∉ value))

end Quoting

/-- A part of an argument line. -/
inductive Item
  | pair (p : Pair) (quoting : Quoting)
  | word (w : Text)
  deriving Repr, DecidableEq

namespace Item

def write : Item → Text
  | pair p quoting => p.key ++ '=' :: quoting.wrap p.value
  | word w => w

def pair? : Item → Option Pair
  | pair p _ => some p
  | word _ => none

/-- What reading leaves of an item. -/
def unread : Item → Text
  | pair _ _ => []
  | word w => w

/-- A pair whose key is a name and whose value can be written as it is, or a word without an equals
sign, where a word is any text that is not blank. -/
def Valid : Item → Prop
  | pair p quoting => Text.isName p.key = true ∧ quoting.Admits p.value
  | word w => '=' ∉ w ∧ Text.isAllBlank w = false

instance : (item : Item) → Decidable item.Valid
  | pair _ _ => inferInstanceAs (Decidable (_ ∧ _))
  | word _ => inferInstanceAs (Decidable (_ ∧ _))

end Item

/-- Parts of an argument line with single spaces between them. -/
def write (items : List Item) : Text := Text.join [' '] (items.map Item.write)

/-- What is held of some pairs by their keys: of each key the last value, in the order in which the
keys came first. -/
structure LastOfEach (given held : List Pair) : Prop where
  keys : held.map (·.key) = (given.map (·.key)).eraseDups
  value : ∀ key, get? key held = (given.findRev? (·.key == key)).map (·.value)

section Held

theorem map_key_put (p : Pair) (held : List Pair) :
    (put p held).map (·.key) =
      if p.key ∈ held.map (·.key) then held.map (·.key) else held.map (·.key) ++ [p.key] := by
  induction held with
  | nil => rfl
  | cons first rest ih =>
    by_cases h : first.key = p.key
    · simp [put, h]
    · simp only [put, h, if_false, List.map_cons, ih, List.mem_cons, Ne.symm h, false_or]
      split <;> rfl

theorem get?_put (p : Pair) (held : List Pair) (key : Text) :
    get? key (put p held) = if p.key = key then some p.value else get? key held := by
  simp only [get?]
  induction held with
  | nil => by_cases h : p.key = key <;> simp [put, h]
  | cons first rest ih =>
    by_cases same : first.key = p.key
    · by_cases h : p.key = key <;> simp [put, same, h]
    · rw [put, if_neg same, List.find?_cons, List.find?_cons]
      by_cases h : first.key = key
      · simp [h, Ne.symm (h ▸ same)]
      · rw [beq_false_of_ne h]
        exact ih

theorem LastOfEach.put {given held : List Pair} (h : LastOfEach given held) (p : Pair) :
    LastOfEach (given ++ [p]) (put p held) where
  keys := by
    rw [map_key_put, h.keys, List.map_append, List.map_singleton, List.eraseDups_append,
      List.removeAll]
    by_cases old : p.key ∈ given.map (·.key)
    · rw [if_pos (List.mem_eraseDups.2 old), List.filter_cons_of_neg (by simpa using old),
        List.filter_nil, List.eraseDups_nil, List.append_nil]
    · rw [if_neg (mt List.mem_eraseDups.1 old), List.filter_cons_of_pos (by simpa using old),
        List.filter_nil]
      rfl
  value key := by
    rw [get?_put, h.value, List.findRev?_eq_find?_reverse, List.findRev?_eq_find?_reverse,
      List.reverse_append, List.reverse_singleton, List.singleton_append, List.find?_cons]
    by_cases same : p.key = key
    · simp [same]
    · rw [if_neg same, beq_false_of_ne same]

theorem LastOfEach.foldl {given held : List Pair} (h : LastOfEach given held) (more : List Pair) :
    LastOfEach (given ++ more) (more.foldl (fun held p => Argument.put p held) held) := by
  induction more generalizing given held with
  | nil => simpa using h
  | cons p more ih =>
    rw [List.append_cons]
    exact ih (h.put p)

theorem lastOfEach_nil : LastOfEach [] [] := ⟨rfl, fun _ => rfl⟩

end Held

section Reading

/-- Nothing or a blank begins a text. -/
def Apart (rest : Text) : Prop := ∀ c ∈ rest.head?, Text.isBlank c = true

/-- Up to the next blank all of a word is taken. -/
theorem takeWhile_unbroken {word rest : Text} (unbroken : ∀ c ∈ word, Text.isBlank c = false)
    (apart : Apart rest) : (word ++ rest).takeWhile (!Text.isBlank ·) = word := by
  apply Text.takeWhile_of_stop
  · intro c hc
    rw [unbroken c hc]
    rfl
  · intro c hc
    rw [apart c hc]
    rfl

theorem quotedValue?_append (quote : Char) {value : Text} (free : quote ∉ value) (rest : Text) :
    quotedValue? quote (value ++ quote :: rest) = some (value, value.length + 2) := by
  have inside : ∀ c ∈ value, (c != quote) = true := by
    intro c hc
    rw [bne_iff_ne]
    rintro rfl
    exact free hc
  have taken : (value ++ quote :: rest).takeWhile (· != quote) = value :=
    Text.takeWhile_of_stop inside (by simp)
  simp only [quotedValue?, taken, List.drop_left, List.head?_cons, if_true]

theorem value?_wrap {quoting : Quoting} {value rest : Text} (admits : quoting.Admits value)
    (apart : Apart rest) :
    value? (quoting.wrap value ++ rest) = some (value, (quoting.wrap value).length) := by
  cases quoting with
  | bare =>
    obtain ⟨filled, unbroken, begins⟩ := admits
    cases value with
    | nil => exact absurd rfl filled
    | cons c value =>
      obtain ⟨first, others⟩ := List.forall_mem_cons.1 unbroken
      have taken := takeWhile_unbroken others apart
      have quotes := begins c rfl
      simp [Quoting.wrap, Quoting.mark, value?, quotes, first, taken]
  | single =>
    have read := quotedValue?_append '\'' admits rest
    simp [Quoting.wrap, Quoting.mark, value?, read]
  | double =>
    have read := quotedValue?_append '"' admits rest
    simp [Quoting.wrap, Quoting.mark, value?, read]

theorem recogniser_pair {p : Pair} {quoting : Quoting} (valid : (Item.pair p quoting).Valid)
    {rest : Text} (apart : Apart rest) (flag : Bool) :
    recogniser flag ((Item.pair p quoting).write ++ rest) =
      some (p, (Item.pair p quoting).write.length) := by
  obtain ⟨key, value⟩ := p
  obtain ⟨named, admits⟩ := valid
  have read := value?_wrap admits apart
  cases key with
  | nil => exact Bool.noConfusion named
  | cons c name =>
    simp only [Text.isName, Bool.and_eq_true, List.all_eq_true] at named
    have sign : Text.isNameChar '=' = false := by decide
    have taken : (name ++ '=' :: (quoting.wrap value ++ rest)).takeWhile Text.isNameChar = name :=
      Text.takeWhile_of_stop named.2 (by simp [sign])
    simp only [Item.write, List.cons_append, List.append_assoc, recogniser, named.1, taken]
    simp [Text.after?, read, Nat.add_assoc, Nat.add_comm]

/-- Where an argument is read, an equals sign is the first character that no name has. -/
theorem head?_of_recogniser {flag : Bool} {text : Text} {hit : Pair × Nat}
    (read : recogniser flag text = some hit) :
    (text.dropWhile Text.isNameChar).head? = some '=' := by
  cases text with
  | nil => cases read
  | cons c text =>
    simp only [recogniser] at read
    split at read
    · cases read
    · next begins =>
      have first : Text.isNameChar c = true := by
        apply Text.isNameChar_of_isNameStart
        simpa using begins
      have whole : c :: text.takeWhile Text.isNameChar ++ (c :: text).dropWhile Text.isNameChar =
          c :: text := by
        rw [← List.takeWhile_cons_of_pos first, List.takeWhile_append_dropWhile]
      have behind : (c :: text).drop (c :: text.takeWhile Text.isNameChar).length =
          (c :: text).dropWhile Text.isNameChar := by
        have cut := congrArg (List.drop (c :: text.takeWhile Text.isNameChar).length) whole
        rw [List.drop_left] at cut
        exact cut.symm
      simp only [Option.bind_eq_bind, Option.bind_eq_some_iff, behind] at read
      obtain ⟨tail, cut, -⟩ := read
      rw [Text.after?_eq_some cut]
      rfl

/-- No argument begins where no equals sign comes before the next blank. -/
theorem recogniser_eq_none {front rest : Text} (free : '=' ∉ front) (apart : Apart rest)
    (flag : Bool) : recogniser flag (front ++ rest) = none := by
  apply Option.eq_none_iff_forall_ne_some.2
  intro hit read
  have head := head?_of_recogniser read
  rw [List.dropWhile_append] at head
  split at head
  · -- the name would go on to the blank, which no name has
    cases rest with
    | nil => cases head
    | cons c rest =>
      have blank := apart c rfl
      have stop := Text.isNameChar_of_isBlank blank
      rw [List.dropWhile_cons_of_neg (by simp [stop]), List.head?_cons] at head
      obtain rfl := Option.some.inj head
      exact absurd blank (by decide)
  · next inside =>
    apply free
    apply (List.dropWhile_sublist Text.isNameChar).subset
    apply List.mem_of_head?
    rw [List.isEmpty_iff] at inside
    obtain ⟨c, others, same⟩ := List.exists_cons_of_ne_nil inside
    rw [same] at head ⊢
    exact head

theorem recogniser_unanchored : Recogniser.Unanchored recogniser := fun _ _ => rfl

theorem apart_space (rest : Text) : Apart (' ' :: rest) := by
  intro c hc
  obtain rfl : ' ' = c := by simpa using hc
  decide

/-- An item is read as the pair that it is, or passed over and kept. -/
theorem read_item {item : Item} (valid : item.Valid) {rest : Text} (apart : Apart rest) :
    Search.found recogniser (item.write ++ rest) =
        item.pair?.toList ++ Search.found recogniser rest ∧
      Search.exchange recogniser (fun _ => []) (item.write ++ rest) =
        item.unread ++ Search.exchange recogniser (fun _ => []) rest := by
  cases item with
  | pair p quoting =>
    have ne : (Item.pair p quoting).write ≠ [] :=
      List.append_ne_nil_of_right_ne_nil p.key (List.cons_ne_nil _ _)
    exact Search.append_of_some recogniser_unanchored _ ne (recogniser_pair valid apart true)
  | word w =>
    apply Search.append_of_none recogniser_unanchored
    intro back _ suffix
    exact recogniser_eq_none (fun sign => valid.1 (suffix.subset sign)) apart true

/-- Items with a space in front of each of them. -/
def spaced (items : List Item) : Text := items.flatMap fun item => ' ' :: item.write

theorem spaced_eq {items : List Item} (ne : items ≠ []) : spaced items = ' ' :: write items := by
  induction items with
  | nil => exact absurd rfl ne
  | cons item rest ih =>
    cases rest with
    | nil => simp [spaced, write, Text.join]
    | cons next rest =>
      have behind := ih (List.cons_ne_nil next rest)
      simp only [spaced, List.flatMap_cons, write, Text.join, List.map_cons] at behind ⊢
      rw [behind, List.intercalate_cons_cons]
      simp

theorem apart_spaced (items : List Item) : Apart (spaced items) := by
  cases items with
  | nil => intro c hc; exact nomatch hc
  | cons item rest => exact apart_space _

theorem read_space (rest : Text) :
    Search.found recogniser (' ' :: rest) = Search.found recogniser rest ∧
      Search.exchange recogniser (fun _ => []) (' ' :: rest) =
        ' ' :: Search.exchange recogniser (fun _ => []) rest :=
  Search.cons_of_none recogniser_unanchored _
    (recogniser_eq_none List.not_mem_nil (apart_space rest) true)

theorem read_spaced {items : List Item} (valid : ∀ item ∈ items, item.Valid) :
    Search.found recogniser (spaced items) = items.filterMap Item.pair? ∧
      Search.exchange recogniser (fun _ => []) (spaced items) =
        items.flatMap fun item => ' ' :: item.unread := by
  induction items with
  | nil => exact ⟨by simp [Search.found, Search.all, Search.allFrom, spaced],
      by simp [Search.exchange, Search.exchangeFrom, spaced]⟩
  | cons item rest ih =>
    obtain ⟨own, others⟩ := List.forall_mem_cons.1 valid
    obtain ⟨pairs, left⟩ := ih others
    obtain ⟨first, kept⟩ := read_item own (apart_spaced rest)
    obtain ⟨skipped, goes⟩ := read_space (item.write ++ spaced rest)
    have cut : spaced (item :: rest) = ' ' :: (item.write ++ spaced rest) := by
      simp [spaced]
    rw [cut, skipped, goes, first, kept, pairs, left]
    constructor
    · cases item <;> rfl
    · rfl

/-- What is read of written items are the pairs among them, in order. -/
theorem found_write {items : List Item} (valid : ∀ item ∈ items, item.Valid) :
    Search.found recogniser (write items) = items.filterMap Item.pair? := by
  cases items with
  | nil => simp [Search.found, Search.all, Search.allFrom, write, Text.join]
  | cons item rest =>
    rw [← (read_spaced valid).1, spaced_eq (List.cons_ne_nil item rest), (read_space _).1]

theorem isAllBlank_unread_iff {item : Item} (valid : item.Valid) :
    Text.isAllBlank item.unread = true ↔ item.pair?.isSome = true := by
  cases item with
  | pair p quoting => simp [Item.unread, Item.pair?, Text.isAllBlank]
  | word w => simp [Item.unread, Item.pair?, valid.2]

theorem isOnlyPairs_write {items : List Item} (valid : ∀ item ∈ items, item.Valid) :
    isOnlyPairs (write items) = true ↔ ∀ item ∈ items, item.pair?.isSome = true := by
  rcases eq_or_ne items [] with rfl | ne
  · simp [isOnlyPairs, write, Text.join, Search.exchange, Search.exchangeFrom, Text.isAllBlank]
  · have left := (read_spaced valid).2
    rw [spaced_eq ne, (read_space _).2] at left
    have space : Text.isBlank ' ' = true := by decide
    have blank := congrArg Text.isAllBlank left
    simp only [Text.isAllBlank, List.all_cons, space, Bool.true_and, List.all_flatMap] at blank
    rw [isOnlyPairs, Text.isAllBlank, blank, List.all_eq_true]
    apply forall₂_congr
    intro item mem
    exact isAllBlank_unread_iff (valid item mem)

end Reading

theorem ofText_eq (text : Text) :
    ofText text = (Search.found recogniser text).foldl (fun held p => put p held) [] := by
  rw [ofText, Search.found, List.foldl_map]

/-- Arguments come back as they were written, whatever stands in their values and between them. -/
theorem ofText_write {items : List Item} (valid : ∀ item ∈ items, item.Valid) :
    LastOfEach (items.filterMap Item.pair?) (ofText (write items)) ∧
      (isOnlyPairs (write items) = true ↔ ∀ item ∈ items, item.pair?.isSome = true) := by
  rw [ofText_eq, found_write valid]
  exact ⟨lastOfEach_nil.foldl _, isOnlyPairs_write valid⟩

/-- Values with an equals sign, with quotes of the other kind and a line feed around what looks like
a pair, and an empty one that takes the place of an earlier one. -/
theorem ofText_write_repeated :
    let items : List Item := [.pair ⟨"a", "x=1"⟩ .bare, .word "it's",
      .pair ⟨"b-c", "say \"a=2\"\n"⟩ .single, .pair ⟨"a", ""⟩ .double]
    (∀ item ∈ items, item.Valid) ∧
      write items = "a=x=1 it's b-c='say \"a=2\"\n' a=\"\"".toList ∧
      ofText (write items) = [⟨"a", ""⟩, ⟨"b-c", "say \"a=2\"\n"⟩] ∧
      LastOfEach (items.filterMap Item.pair?) (ofText (write items)) ∧
      isOnlyPairs (write items) = false := by
  intro items
  have valid : ∀ item ∈ items, item.Valid := by decide
  have read := ofText_write valid
  refine ⟨valid, by decide, by decide +kernel, read.1, ?_⟩
  rw [Bool.eq_false_iff, Ne, read.2]
  decide

end Argument
end PageDirectives
