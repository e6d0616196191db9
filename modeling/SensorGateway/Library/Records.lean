/-
This file is a small library on streams of records of a fixed width. A codec encodes each
record in as many symbols as the width says, and every chunk of that length is the
encoding of exactly one record. Then every stream is, in exactly one way, the encodings
of some records and a residue that is too short for another one.
-/

import Mathlib.Data.List.Basic

namespace SensorGateway.Records

/-- An encoding of records in chunks of a fixed width. -/
structure Codec (Record Symbol : Type) where
  width : Nat
  positive : 0 < width
  encode : Record → List Symbol
  sized : ∀ record, (encode record).length = width
  injective : Function.Injective encode
  surjective : ∀ chunk : List Symbol, chunk.length = width → ∃ record, encode record = chunk

/-- Complete records, and a residue that is shorter than a record. -/
structure Contents {Record Symbol : Type} (codec : Codec Record Symbol) where
  records : List Record
  residue : List Symbol
  short : residue.length < codec.width

variable {Record Symbol : Type} {codec : Codec Record Symbol}

/-- The stream of the records and the residue. -/
def Contents.stream (contents : Contents codec) : List Symbol :=
  contents.records.flatMap codec.encode ++ contents.residue

theorem length_flatMap_encode (records : List Record) :
    (records.flatMap codec.encode).length = records.length * codec.width := by
  induction records with
  | nil => exact (Nat.zero_mul codec.width).symm
  | cons record rest inductionHypothesis =>
    rw [List.flatMap_cons, List.length_append, codec.sized, inductionHypothesis, List.length_cons,
      Nat.succ_mul, Nat.add_comm]

/-- The length of the residue is what the width leaves of the length of the stream. -/
theorem Contents.length_mod (contents : Contents codec) :
    contents.stream.length % codec.width = contents.residue.length := by
  rw [Contents.stream, List.length_append, length_flatMap_encode, Nat.mul_add_mod_self_right,
    Nat.mod_eq_of_lt contents.short]

theorem exists_contents (stream : List Symbol) :
    ∃ contents : Contents codec, contents.stream = stream := by
  induction size : stream.length using Nat.strongRecOn generalizing stream with
  | ind length inductionHypothesis =>
    rcases Nat.lt_or_ge stream.length codec.width with short | long
    · exact ⟨⟨[], stream, short⟩, rfl⟩
    · have positive := codec.positive
      obtain ⟨record, encoded⟩ :=
        codec.surjective (stream.take codec.width) (List.length_take_of_le long)
      obtain ⟨rest, whole⟩ := inductionHypothesis (stream.drop codec.width).length
        (by rw [List.length_drop]; omega) (stream.drop codec.width) rfl
      refine ⟨⟨record :: rest.records, rest.residue, rest.short⟩, ?_⟩
      show (record :: rest.records).flatMap codec.encode ++ rest.residue = stream
      rw [List.flatMap_cons, encoded, List.append_assoc]
      show stream.take codec.width ++ rest.stream = stream
      rw [whole, List.take_append_drop]

/-- Two ways to cut a stream agree record by record. -/
theorem records_unique {records others : List Record} {residue otherResidue : List Symbol}
    (short : residue.length < codec.width) (otherShort : otherResidue.length < codec.width)
    (same : records.flatMap codec.encode ++ residue =
      others.flatMap codec.encode ++ otherResidue) :
    records = others ∧ residue = otherResidue := by
  induction records generalizing others with
  | nil =>
    cases others with
    | nil => exact ⟨rfl, same⟩
    | cons other rest =>
      have lengths := congrArg List.length same
      rw [List.flatMap_nil, List.nil_append, List.flatMap_cons, List.length_append,
        List.length_append, codec.sized] at lengths
      omega
  | cons record rest inductionHypothesis =>
    cases others with
    | nil =>
      have lengths := congrArg List.length same
      rw [List.flatMap_nil, List.nil_append, List.flatMap_cons, List.length_append,
        List.length_append, codec.sized] at lengths
      omega
    | cons other otherRest =>
      rw [List.flatMap_cons, List.flatMap_cons, List.append_assoc, List.append_assoc] at same
      obtain ⟨first, tail⟩ :=
        List.append_inj same ((codec.sized record).trans (codec.sized other).symm)
      obtain ⟨sameRest, sameResidue⟩ := inductionHypothesis tail
      exact ⟨congrArg₂ List.cons (codec.injective first) sameRest, sameResidue⟩

/-- Every stream has exactly one contents. -/
theorem stream_bijective : Function.Bijective (@Contents.stream Record Symbol codec) := by
  refine ⟨fun first second same => ?_, exists_contents⟩
  obtain ⟨records, residue, short⟩ := first
  obtain ⟨others, otherResidue, otherShort⟩ := second
  obtain ⟨rfl, rfl⟩ := records_unique short otherShort same
  rfl

end SensorGateway.Records
