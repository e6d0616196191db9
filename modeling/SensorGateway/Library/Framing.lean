/-
This file is a small library on messages framed by a sentinel. A stream of messages,
each followed by the sentinel, is cut into chunks. If the chunks are as many as the
messages and each begins with its message, then every chunk is one framed message,
provided that no message is empty or contains the sentinel.
-/

import Mathlib.Data.List.Forall2

namespace SensorGateway.Framing

variable {Symbol : Type}

/-- A message followed by the sentinel. -/
def frame (sentinel : Symbol) (message : List Symbol) : List Symbol := message ++ [sentinel]

/-- The stream of a list of messages. -/
def stream (sentinel : Symbol) (messages : List (List Symbol)) : List Symbol :=
  (messages.map (frame sentinel)).flatten

theorem stream_cons (sentinel : Symbol) (message : List Symbol) (rest : List (List Symbol)) :
    stream sentinel (message :: rest) = message ++ sentinel :: stream sentinel rest := by
  rw [stream, List.map_cons, List.flatten_cons, frame, List.append_assoc]
  rfl

/-- A stream of nonempty messages does not begin with the sentinel. -/
theorem head_stream_ne {sentinel : Symbol} {message tail : List Symbol}
    {rest : List (List Symbol)} (nonempty : message ≠ []) (clean : sentinel ∉ message) :
    message ++ tail ≠ sentinel :: stream sentinel rest := by
  obtain ⟨first, others, rfl⟩ := List.exists_cons_of_ne_nil nonempty
  intro same
  rw [List.cons_append, List.cons.injEq] at same
  exact clean (same.1 ▸ List.mem_cons_self)

/-- Chunks that each begin with their message are the framed messages. The surplus is what
precedes the chunks in the stream; the induction shows that nothing can. -/
theorem chunks_eq_frames {sentinel : Symbol} {messages chunks : List (List Symbol)}
    {surplus : List Symbol} (nonempty : ∀ message ∈ messages, message ≠ [])
    (clean : ∀ message ∈ messages, sentinel ∉ message)
    (begins : List.Forall₂ (fun message chunk => message <+: chunk) messages chunks)
    (cut : surplus ++ chunks.flatten = stream sentinel messages) :
    surplus = [] ∧ chunks = messages.map (frame sentinel) := by
  induction begins generalizing surplus with
  | nil =>
    refine ⟨?_, rfl⟩
    simpa [stream] using cut
  | @cons message chunk messages chunks headBegins tailBegins inductionHypothesis =>
    obtain ⟨excess, rfl⟩ := headBegins
    have tailNonempty : ∀ other ∈ messages, other ≠ [] := fun other member =>
      nonempty other (List.mem_cons_of_mem _ member)
    have tailClean : ∀ other ∈ messages, sentinel ∉ other := fun other member =>
      clean other (List.mem_cons_of_mem _ member)
    have headNonempty := nonempty message List.mem_cons_self
    have headClean := clean message List.mem_cons_self
    rw [stream_cons, List.flatten_cons] at cut
    have noSurplus : surplus = [] := by
      by_contra some
      -- The chunk would end past the sentinel of its message, so the message would contain it.
      have longer : (message ++ [sentinel]).length ≤ (surplus ++ message).length := by
        have positive := List.length_pos_iff.mpr some
        simp only [List.length_append, List.length_singleton]
        omega
      have aligned : (surplus ++ message) ++ (excess ++ chunks.flatten) =
          (message ++ [sentinel]) ++ stream sentinel messages := by
        simpa only [List.append_assoc, List.singleton_append] using cut
      obtain ⟨beyond, extends'⟩ := List.prefix_of_prefix_length_le
        (List.prefix_append (message ++ [sentinel]) _) (aligned ▸ List.prefix_append _ _) longer
      have rest : (beyond ++ excess) ++ chunks.flatten = stream sentinel messages := by
        rw [← extends', List.append_assoc] at aligned
        rw [List.append_assoc]
        exact List.append_cancel_left aligned
      have nothing := (inductionHypothesis tailNonempty tailClean rest).1
      rw [(List.append_eq_nil_iff.mp nothing).1, List.append_nil] at extends'
      have ends : message ++ [sentinel] =
          (surplus ++ message.dropLast) ++ [message.getLast headNonempty] := by
        rw [extends', List.append_assoc, List.dropLast_append_getLast headNonempty]
      have lastSame := List.singleton_inj.mp (List.append_inj' ends rfl).2
      exact headClean (lastSame ▸ List.getLast_mem headNonempty)
    subst noSurplus
    refine ⟨rfl, ?_⟩
    have remaining : excess ++ chunks.flatten = sentinel :: stream sentinel messages := by
      rw [List.nil_append, List.append_assoc] at cut
      exact List.append_cancel_left cut
    cases excess with
    | nil =>
      rw [List.nil_append] at remaining
      cases tailBegins with
      | nil => exact absurd remaining (by simp)
      | @cons next nextChunk others otherChunks nextBegins othersBegin =>
        obtain ⟨nextExcess, rfl⟩ := nextBegins
        rw [List.flatten_cons, List.append_assoc] at remaining
        exact absurd remaining (head_stream_ne (tailNonempty next List.mem_cons_self)
          (tailClean next List.mem_cons_self))
    | cons symbol excess =>
      rw [List.cons_append, List.cons.injEq] at remaining
      obtain ⟨excessNil, rest⟩ := inductionHypothesis tailNonempty tailClean remaining.2
      rw [excessNil, remaining.1, rest]
      rfl

end SensorGateway.Framing
