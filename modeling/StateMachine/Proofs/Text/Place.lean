import Mathlib.Data.String.Basic
import StateMachine.Text.Split

/-!
Places in a text, counted in bytes, and the strides in which a reader goes from one to the next. A
reader that counts the bytes of what it passes never stops within a character.
-/

set_option autoImplicit false

namespace StateMachine.Text

theorem byte_length_eq_len (text : List Char) : byteLength text = String.utf8Len text := by
  induction text with
  | nil => rfl
  | cons character rest induction =>
      rw [byteLength, String.utf8Len_cons, induction, Nat.add_comm]

theorem byte_length_append (front rest : List Char) :
    byteLength (front ++ rest) = byteLength front + byteLength rest := by
  simp only [byte_length_eq_len, String.utf8Len_append]

theorem byte_length_eq (text : List Char) :
    byteLength text = (String.ofList text).utf8ByteSize := by
  rw [String.utf8ByteSize_ofList, byte_length_eq_len]

/-- Where a character of the text begins, or its end, counted in bytes. -/
def IsPlace (text : List Char) (place : Nat) : Prop :=
  ∃ front rest, text = front ++ rest ∧ byteLength front = place

theorem is_place_iff (text : String) (place : Nat) :
    IsPlace text.toList place ↔ String.Pos.Raw.IsValid text ⟨place⟩ := by
  rw [String.Pos.Raw.isValid_iff_exists_append]
  constructor
  · rintro ⟨front, rest, split, rfl⟩
    refine ⟨String.ofList front, String.ofList rest, ?_, ?_⟩
    · rw [← String.ofList_append, ← split, String.ofList_toList]
    · rw [byte_length_eq]
      rfl
  · rintro ⟨front, rest, rfl, place_eq⟩
    refine ⟨front.toList, rest.toList, String.toList_append, ?_⟩
    rw [byte_length_eq, String.ofList_toList]
    exact (congrArg String.Pos.Raw.byteIdx place_eq).symm

/-- Strides that lead through a text from place to place, up to its end. -/
def LeadThrough (strides : List Nat) (text : List Char) : Prop :=
  ∃ pieces : List (List Char), pieces.flatten = text ∧ pieces.map byteLength = strides

def placesOf : List Nat → List Nat
  | [] => [0]
  | stride :: rest => 0 :: (placesOf rest).map (stride + ·)

theorem zero_mem_places_of (strides : List Nat) : 0 ∈ placesOf strides :=
  match strides with
  | [] | _ :: _ => List.mem_cons_self

namespace LeadThrough

theorem nil : LeadThrough [] [] := ⟨[], rfl, rfl⟩

theorem single {text : List Char} {stride : Nat} (whole : byteLength text = stride) :
    LeadThrough [stride] text := ⟨[text], by simp, by simp [whole]⟩

theorem append {strides others : List Nat} {text rest : List Char}
    (first : LeadThrough strides text) (second : LeadThrough others rest) :
    LeadThrough (strides ++ others) (text ++ rest) := by
  obtain ⟨pieces, rfl, rfl⟩ := first
  obtain ⟨morePieces, rfl, rfl⟩ := second
  exact ⟨pieces ++ morePieces, List.flatten_append, List.map_append⟩

theorem characters (text : List Char) : LeadThrough (text.map Char.utf8Size) text := by
  induction text with
  | nil => exact nil
  | cons character rest induction =>
      have first : LeadThrough [character.utf8Size] [character] := single (by simp [byteLength])
      exact first.append induction

theorem behind {strides others : List Nat} {text : List Char} (lead : LeadThrough strides text)
    {place : Nat} (visited : place ∈ placesOf others) :
    byteLength text + place ∈ placesOf (strides ++ others) := by
  obtain ⟨pieces, rfl, rfl⟩ := lead
  induction pieces with
  | nil => simpa [byteLength] using visited
  | cons piece pieces induction =>
      rw [List.flatten_cons, byte_length_append, Nat.add_assoc]
      exact List.mem_cons_of_mem _ (List.mem_map_of_mem induction)

theorem is_place {strides : List Nat} {text : List Char} (lead : LeadThrough strides text)
    {place : Nat} (visited : place ∈ placesOf strides) : IsPlace text place := by
  obtain ⟨pieces, rfl, rfl⟩ := lead
  induction pieces generalizing place with
  | nil => exact ⟨[], [], rfl, (List.mem_singleton.mp visited).symm⟩
  | cons piece pieces induction =>
      rcases List.mem_cons.mp visited with rfl | later
      · exact ⟨[], _, rfl, rfl⟩
      · obtain ⟨within, member, rfl⟩ := List.mem_map.mp later
        obtain ⟨front, rest, split, rfl⟩ := induction member
        refine ⟨piece ++ front, rest, ?_, byte_length_append piece front⟩
        rw [List.flatten_cons, split, List.append_assoc]

end LeadThrough

end StateMachine.Text
