import SqlNormal.Proofs.CallPhrases
import SqlNormal.Proofs.Climbing

/-!
# Words, lists and parentheses in texts

The texts of calls and of forms are put together from words, from texts that are split by
themselves, and from blanks, commas and parentheses. They are split accordingly.

* `isWord`, `spells_plainWord`, `followsSign_word`: words of ASCII letters, digits and signs;
* `spells_behind`, `spells_commas`, `spells_blanks`: texts behind a blank, and texts with commas or
  blanks between them;
* `spells_enclosed`: a word and something in parentheses.
-/

namespace SqlNormal.Sql

open Reader (plainWord listed)
open Climbing (FollowsSign afterOperand_blank)

/-- A word of ASCII letters, digits and signs. -/
def isWord (word : String) : Bool :=
  match word.toList with
  | c :: cs => isAsciiStart c && cs.all isAsciiPart
  | [] => false

theorem exists_of_isWord {word : String} (h : isWord word) : ∃ c cs, word.toList = c :: cs ∧
    isAsciiStart c ∧ cs.all isAsciiPart := by
  unfold isWord at h
  split at h
  · rename_i c cs hlist
    rw [Bool.and_eq_true] at h
    exact ⟨c, cs, hlist, h⟩
  · cases h

/-- A word is split off as it is. -/
theorem spells_plainWord {word : String} (h : isWord word) :
    Spells AfterName word.toList [plainWord word] := by
  obtain ⟨c, cs, hlist, hc, hcs⟩ := exists_of_isWord h
  have hword := spells_word hc hcs
  rw [← hlist, String.ofList_toList] at hword
  exact hword

/-- A sign may stand right in front of a word. -/
theorem followsSign_word {word : String} (h : isWord word) (more : String) :
    FollowsSign (word ++ more) := by
  obtain ⟨c, cs, hlist, hc, -⟩ := exists_of_isWord h
  exact .append (Climbing.followsSign_of_head hlist
    (Climbing.not_mem_operators (isAsciiPart_of_isAsciiStart hc))) more

theorem afterName_blank (cs : List Char) : AfterName (' ' :: cs) := by
  rintro _ ⟨⟩
  decide

theorem afterName_opening (cs : List Char) : AfterName ('(' :: cs) := by
  rintro _ ⟨⟩
  decide

theorem afterOperand_comma (cs : List Char) : AfterOperand (',' :: cs) := by
  rintro _ ⟨⟩
  decide

theorem afterOperand_closing (cs : List Char) : AfterOperand (')' :: cs) := by
  rintro _ ⟨⟩
  decide

variable {next : List Char → Prop} {cs : List Char} {ts : List Token}

/-- A text behind a blank. -/
theorem spells_behind (h : Spells next cs ts) : Spells next (' ' :: cs) ts :=
  spells_blank.append h fun _ _ => trivial

/-- A comma is split off whatever follows it. -/
theorem spells_comma : Spells (fun _ => True) [','] [.symbol ","] :=
  .of_readToken? fun _ _ => rfl

/-- Texts, each of them split by itself. -/
abbrev SpellAll (texts : List String) (tss : List (List Token)) : Prop :=
  List.Forall₂ (fun text ts => Spells AfterOperand text.toList ts) texts tss

/-- Texts with commas between them. -/
theorem spells_commas {texts : List String} {tss : List (List Token)} (h : SpellAll texts tss)
    (hne : texts ≠ []) : Spells AfterOperand (", ".intercalate texts).toList (listed tss) := by
  induction h with
  | nil => exact absurd rfl hne
  | @cons text ts texts tss h hs ih =>
    cases hs with
    | nil => simpa using h
    | @cons text' ts' texts tss h' hs =>
      have hmore := ih (List.cons_ne_nil _ _)
      have hlist : (", ".intercalate (text :: text' :: texts)).toList =
          text.toList ++ ([','] ++ (' ' :: (", ".intercalate (text' :: texts)).toList)) := by
        simp
      rw [hlist, Reader.listed_cons]
      exact h.append (spells_comma.append (spells_behind hmore) fun _ _ => trivial)
        fun _ _ => afterOperand_comma _

/-- Texts with blanks between them. -/
theorem spells_blanks {texts : List String} {tss : List (List Token)} (h : SpellAll texts tss)
    (hne : texts ≠ []) : Spells AfterOperand (" ".intercalate texts).toList tss.flatten := by
  induction h with
  | nil => exact absurd rfl hne
  | @cons text ts texts tss h hs ih =>
    cases hs with
    | nil => simpa using h
    | @cons text' ts' texts tss h' hs =>
      have hmore := ih (List.cons_ne_nil _ _)
      have hlist : (" ".intercalate (text :: text' :: texts)).toList =
          text.toList ++ (' ' :: (" ".intercalate (text' :: texts)).toList) := by
        simp
      rw [hlist, List.flatten_cons]
      exact h.append (spells_behind hmore) fun _ _ => afterOperand_blank _

/-- A word and something in parentheses behind it. -/
theorem spells_enclosed {word body : String} (hword : isWord word)
    (h : Spells AfterOperand body.toList ts) :
    Spells AfterOperand (word ++ "(" ++ body ++ ")").toList
      (plainWord word :: .symbol "(" :: (ts ++ [.symbol ")"])) := by
  have hlist : (word ++ "(" ++ body ++ ")").toList =
      word.toList ++ (['('] ++ (body.toList ++ [')'])) := by
    simp
  have hclosed : Spells AfterOperand (body.toList ++ [')']) (ts ++ [.symbol ")"]) :=
    h.append (spells_closing.mono fun _ _ => trivial) fun _ _ => afterOperand_closing _
  rw [hlist]
  exact (spells_plainWord hword).append (spells_opening.append hclosed fun _ _ => trivial)
    fun _ _ => afterName_opening _

end SqlNormal.Sql
