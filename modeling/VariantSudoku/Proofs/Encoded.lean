import Mathlib.Data.List.Forall2
import VariantSudoku.Document.Reader
import VariantSudoku.Document.Writer
import VariantSudoku.Proofs.Lexemes

set_option autoImplicit false

namespace VariantSudoku

namespace Json

open Reader

def Solid (text : String) : Prop :=
  ∃ c cs, text.toList = c :: cs ∧ isSpace c = false ∧ c ≠ ']'

structure Encodes {α : Type} (h : Head) (read : From α) (text : String) (a : α) : Prop where
  reads : ∀ {rest}, Ends rest → ∃ cs, head.run (text.toList ++ rest) = .ok (h, cs) ∧
    (read h).run cs = .ok (a, rest)
  solid : Solid text

section

variable {α β : Type} {h : Head} {read : From α} {text : String} {a : α} {rest : List Char}

theorem Encodes.run_whole (encodes : Encodes h read text a) (ends : Ends rest) :
    (whole read).run (text.toList ++ rest) = .ok (a, rest) := by
  obtain ⟨cs, begins, reads⟩ := encodes.reads ends
  rw [whole, run_bind_of_ok begins, reads]

theorem encodes_number {n : Int} (exact : IsExact n)
    (reads : ∀ rest, (read (.number (.integer n))).run rest = .ok (a, rest)) :
    Encodes (.number (.integer n)) read (toString n) a where
  reads ends := ⟨_, run_head_number exact ends, reads _⟩
  solid := by
    obtain ⟨c, cs, text, begins⟩ := toString_cons n []
    rw [List.append_nil] at text
    refine ⟨c, cs, text, ?_⟩
    rcases begins with ⟨-, rfl, -⟩ | ⟨-, digit⟩
    · decide
    · simp [isSpace, ne_of_isDigit digit]

theorem encodes_string {s : String}
    (reads : ∀ rest, (read (.string s)).run rest = .ok (a, rest)) :
    Encodes (.string s) read (writeString s) a where
  reads _ := ⟨_, run_head_string s _, reads _⟩
  solid := ⟨'"', _, toList_writeString s, by decide⟩

theorem encodes_null : Encodes .null (nullable read) "null" none where
  reads _ := ⟨_, rfl, rfl⟩
  solid := ⟨'n', _, rfl, by decide⟩

theorem Encodes.nullable (encodes : Encodes h read text a) (other : h ≠ .null) :
    Encodes h (nullable read) text (some a) where
  reads ends := by
    obtain ⟨cs, begins, reads⟩ := encodes.reads ends
    refine ⟨cs, begins, ?_⟩
    have same : Reader.nullable read h = do return some (← read h) := by
      cases h <;> first | rfl | exact absurd rfl other
    rw [same, run_bind_of_ok reads]
    rfl
  solid := encodes.solid

end

section

variable {α : Type} {item : From α} {texts : List String} {values : List α} {rest : List Char}

def EncodesEach (item : From α) (texts : List String) (values : List α) : Prop :=
  List.Forall₂ (fun text a => ∃ h, Encodes h item text a) texts values

def lead (first : Bool) : String :=
  if first then "" else ","

theorem lead_true : lead true = "" := rfl

theorem lead_false : lead false = "," := rfl

theorem run_hasItem_comma (cs : List Char) : (hasItem false).run (',' :: cs) = StateT.run (do
    skipSpace
    match ← peek with
    | none => throw .truncated
    | some ']' => throw .malformed
    | some _ => return true) cs := rfl

theorem run_hasItem {text : String} (solid : Solid text) (first : Bool) (rest : List Char) :
    (hasItem first).run ((lead first).toList ++ (text.toList ++ rest)) =
      .ok (true, text.toList ++ rest) := by
  obtain ⟨c, cs, text, space, other⟩ := solid
  rw [text, List.cons_append]
  cases first with
  | true =>
    change (hasItem true).run (c :: (cs ++ rest)) = _
    rw [hasItem, run_bind_of_ok (run_skipSpace space), run_bind_of_ok run_peek, List.head?_cons]
    split
    · next ended => cases ended
    · next close => exact absurd (Option.some.inj close) other
    · rfl
  | false =>
    change (hasItem false).run (',' :: c :: (cs ++ rest)) = _
    rw [run_hasItem_comma, run_bind_of_ok (run_skipSpace space), run_bind_of_ok run_peek, List.head?_cons]
    split
    · next ended => cases ended
    · next close => exact absurd (Option.some.inj close) other
    · rfl

theorem ends_chained (texts : List String) {mark : Char} (close : mark = ']' ∨ mark = '}')
    (rest : List Char) : Ends (Text.chained "," "," texts ++ mark :: rest) := by
  cases texts with
  | nil => rcases close with rfl | rfl <;> exact Text.ledBy_cons _ (by decide)
  | cons text texts => exact Text.ledBy_cons _ (by decide)

theorem run_itemsUpTo (each : EncodesEach item texts values) {n : Nat} {first : Bool}
    (enough : texts.length < n) :
    (itemsUpTo (whole item) n first).run (Text.chained "," (lead first) texts ++ ']' :: rest) =
      .ok (values, ']' :: rest) := by
  induction each generalizing n first with
  | nil =>
    cases n with
    | zero => cases enough
    | succ n => rfl
  | @cons text a texts values encodes others ih =>
    obtain ⟨h, encodes⟩ := encodes
    cases n with
    | zero => cases enough
    | succ n =>
      have later := @ih n false (Nat.lt_of_succ_lt_succ enough)
      rw [lead_false] at later
      have ends := ends_chained texts (.inl rfl) rest
      rw [Text.chained, List.append_assoc, List.append_assoc, itemsUpTo,
        run_bind_of_ok (run_hasItem encodes.solid first _), if_pos rfl,
        run_bind_of_ok (encodes.run_whole ends), run_bind_of_ok later]
      rfl

theorem EncodesEach.length_le (each : EncodesEach item texts values) (lead : String) :
    texts.length ≤ (Text.chained "," lead texts).length := by
  induction each generalizing lead with
  | nil => exact Nat.le_refl _
  | cons encodes others ih =>
    obtain ⟨h, encodes⟩ := encodes
    obtain ⟨c, cs, text, -⟩ := encodes.solid
    have later := ih ","
    simp only [Text.chained, text, List.length_append, List.length_cons]
    omega

theorem run_items (each : EncodesEach item texts values) (rest : List Char) :
    (items (whole item)).run (Text.chained "," "" texts ++ ']' :: rest) = .ok (values, rest) := by
  have enough : texts.length < (Text.chained "," "" texts ++ ']' :: rest).length + 1 := by
    have bound := each.length_le ""
    rw [List.length_append]
    omega
  have all := @run_itemsUpTo _ _ _ _ rest each _ true enough
  rw [lead_true] at all
  rw [items, run_bind_of_ok run_get, run_bind_of_ok all]
  rfl

theorem toList_writeList (texts : List String) :
    (writeList texts).toList = '[' :: (Text.chained "," "" texts ++ [']']) := by
  rw [writeList, String.toList_append, String.toList_append, Text.toList_intercalate]
  rfl

theorem encodes_list {β : Type} {read : From β} {texts : List String} {b : β}
    (reads : ∀ rest, (read .list).run (Text.chained "," "" texts ++ ']' :: rest) = .ok (b, rest)) :
    Encodes .list read (writeList texts) b where
  reads {rest} _ := by
    refine ⟨Text.chained "," "" texts ++ ']' :: rest, ?_, reads rest⟩
    rw [toList_writeList, List.cons_append, List.append_assoc]
    rfl
  solid := ⟨'[', _, toList_writeList texts, by decide⟩

theorem encodes_listOf {item : Nat → From α} {left : Nat}
    (each : EncodesEach (item left) texts values) :
    Encodes .list (listOf item (left + 1)) (writeList texts) values :=
  encodes_list (run_items each)

end

section

variable {σ : Type} {member : String → σ → Reader σ} {ms : List (String × String)}
  {state next last : σ} {rest : List Char}

def Takes (member : String → σ → Reader σ) (key text : String) (state next : σ) : Prop :=
  ∀ rest, Ends rest → (member key state).run (':' :: (text.toList ++ rest)) = .ok (next, rest)

inductive TakesEach (member : String → σ → Reader σ) : List (String × String) → σ → σ → Prop
  | nil {state : σ} : TakesEach member [] state state
  | cons {key text : String} {ms : List (String × String)} {state next last : σ}
      (first : Takes member key text state next) (others : TakesEach member ms next last) :
      TakesEach member ((key, text) :: ms) state last

theorem TakesEach.append {more : List (String × String)} (front : TakesEach member ms state next)
    (back : TakesEach member more next last) : TakesEach member (ms ++ more) state last := by
  induction front with
  | nil => exact back
  | cons first others ih => exact .cons first (ih back)

def memberTexts (ms : List (String × String)) : List String :=
  ms.map fun (key, text) => writeString key ++ ":" ++ text

theorem toList_writeObject (ms : List (String × String)) :
    (writeObject ms).toList = '\x7b' :: (Text.chained "," "" (memberTexts ms) ++ ['\x7d']) := by
  rw [writeObject, String.toList_append, String.toList_append, Text.toList_intercalate]
  rfl

theorem run_hasMember (first : Bool) (cs : List Char) :
    (hasMember first).run ((lead first).toList ++ '"' :: cs) = .ok (true, cs) := by
  cases first <;> rfl

theorem run_membersUpTo (takes : TakesEach member ms state last) {n : Nat} {first : Bool}
    (enough : ms.length < n) :
    (membersUpTo string member n first state).run
      (Text.chained "," (lead first) (memberTexts ms) ++ '\x7d' :: rest) =
        .ok (last, '\x7d' :: rest) := by
  induction takes generalizing n first with
  | nil =>
    cases n with
    | zero => cases enough
    | succ n => rfl
  | @cons key text ms state next last here others ih =>
    cases n with
    | zero => cases enough
    | succ n =>
      have later := @ih n false (Nat.lt_of_succ_lt_succ enough)
      rw [lead_false] at later
      have ends := ends_chained (memberTexts ms) (.inr rfl) rest
      have front :
          Text.chained "," (lead first) (memberTexts ((key, text) :: ms)) ++ '\x7d' :: rest =
            (lead first).toList ++ '"' :: (key.toList.flatMap writeChar ++ '"' :: ':' ::
              (text.toList ++ (Text.chained "," "," (memberTexts ms) ++ '\x7d' :: rest))) := by
        simp [memberTexts, Text.chained, toList_writeString]
      rw [front, membersUpTo, run_bind_of_ok (run_hasMember first _), if_pos rfl,
        run_bind_of_ok (run_string key _), run_bind_of_ok (here _ ends), later]

theorem length_le_memberTexts (ms : List (String × String)) (lead : String) :
    ms.length ≤ (Text.chained "," lead (memberTexts ms)).length := by
  induction ms generalizing lead with
  | nil => exact Nat.le_refl _
  | cons first ms ih =>
    have later := ih ","
    simp only [memberTexts, List.map_cons, Text.chained, String.toList_append, toList_writeString,
      List.length_append, List.length_cons] at later ⊢
    omega

theorem run_members (takes : TakesEach member ms state last) (rest : List Char) :
    (members member state).run (Text.chained "," "" (memberTexts ms) ++ '\x7d' :: rest) =
      .ok (last, rest) := by
  have enough :
      ms.length < (Text.chained "," "" (memberTexts ms) ++ '\x7d' :: rest).length + 1 := by
    have bound := length_le_memberTexts ms ""
    rw [List.length_append]
    omega
  have all := @run_membersUpTo _ _ _ _ _ rest takes _ true enough
  rw [lead_true] at all
  rw [members, membersWith, run_bind_of_ok run_get, run_bind_of_ok all]
  rfl

theorem encodes_object {α : Type} {read : From α} {a : α} (takes : TakesEach member ms state last)
    (close : ∀ cs rest, (members member state).run cs = .ok (last, rest) →
      (read .object).run cs = .ok (a, rest)) : Encodes .object read (writeObject ms) a where
  reads {rest} _ := by
    refine ⟨Text.chained "," "" (memberTexts ms) ++ '\x7d' :: rest, ?_, ?_⟩
    · rw [toList_writeObject, List.cons_append, List.append_assoc]
      rfl
    · exact close _ _ (run_members takes rest)
  solid := ⟨'\x7b', _, toList_writeObject ms, by decide⟩

end

section

variable {α : Type} {h : Head} {read : From α} {text : String} {a : α} {rest : List Char}

theorem run_colon {cs : List Char} : colon.run (':' :: cs) = .ok ((), cs) := rfl

theorem run_field (encodes : Encodes h read text a) (ends : Ends rest) :
    (field none read).run (':' :: (text.toList ++ rest)) = .ok (some a, rest) := by
  rw [field, run_bind_of_ok run_colon, run_bind_of_ok (encodes.run_whole ends)]
  rfl

end

end Json

end VariantSudoku
