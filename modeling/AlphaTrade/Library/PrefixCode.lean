import Mathlib.Data.List.Basic
import Mathlib.Logic.Function.Basic

/-!
# Codes that can be read off the front of a text

A code is prefix free when a text that starts with a word of it starts with no other. Codes of
this kind can be written one after another, and the whole is read back in one way.
-/
namespace AlphaTrade.Library

variable {α β : Type}

def PrefixFree (code : α → List Char) : Prop :=
  ∀ a b rest other, code a ++ rest = code b ++ other → a = b ∧ rest = other

theorem PrefixFree.comp {code : β → List Char} (free : PrefixFree code) {f : α → β}
    (injective : Function.Injective f) : PrefixFree (code ∘ f) := by
  intro a b rest other same
  obtain ⟨value, rests⟩ := free _ _ _ _ same
  exact ⟨injective value, rests⟩

def unary : Nat → List Char
  | 0 => ['.']
  | n + 1 => '|' :: unary n

theorem prefixFree_unary : PrefixFree unary := by
  intro a
  induction a with
  | zero =>
    intro b rest other same
    cases b with
    | zero => exact ⟨rfl, (List.cons.inj same).2⟩
    | succ b => exact absurd (List.cons.inj same).1 (by decide)
  | succ a ih =>
    intro b rest other same
    cases b with
    | zero => exact absurd (List.cons.inj same).1 (by decide)
    | succ b =>
      obtain ⟨value, rests⟩ := ih b rest other (List.cons.inj same).2
      exact ⟨congrArg Nat.succ value, rests⟩

def quoted : List Char → List Char
  | [] => ['.']
  | c :: cs => '|' :: c :: quoted cs

theorem prefixFree_quoted : PrefixFree quoted := by
  intro a
  induction a with
  | nil =>
    intro b rest other same
    cases b with
    | nil => exact ⟨rfl, (List.cons.inj same).2⟩
    | cons d ds => exact absurd (List.cons.inj same).1 (by decide)
  | cons c cs ih =>
    intro b rest other same
    cases b with
    | nil => exact absurd (List.cons.inj same).1 (by decide)
    | cons d ds =>
      obtain ⟨first, tail⟩ := List.cons.inj (List.cons.inj same).2
      obtain ⟨value, rests⟩ := ih ds rest other tail
      exact ⟨congrArg₂ List.cons first value, rests⟩

def optional (code : α → List Char) : Option α → List Char
  | none => ['.']
  | some a => '|' :: code a

theorem PrefixFree.optional {code : α → List Char} (free : PrefixFree code) :
    PrefixFree (optional code) := by
  intro a b rest other same
  cases a with
  | none =>
    cases b with
    | none => exact ⟨rfl, (List.cons.inj same).2⟩
    | some b => exact absurd (List.cons.inj same).1 (by decide)
  | some a =>
    cases b with
    | none => exact absurd (List.cons.inj same).1 (by decide)
    | some b =>
      obtain ⟨value, rests⟩ := free _ _ _ _ (List.cons.inj same).2
      exact ⟨congrArg some value, rests⟩

end AlphaTrade.Library
