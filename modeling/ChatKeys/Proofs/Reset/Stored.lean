/-
  ChatKeys.Proofs.Reset.Stored

  A pending reset that can be written survives being stored
  (`ResetRequest.decodeText_of_encode`).  All that keeps one from being written are
  times before 1970.
-/
import ChatKeys.Proofs.Json.Accepted
import ChatKeys.Reset

namespace ChatKeys.ResetRequest

open Json

/-- Neither of its times lies before 1970. -/
structure IsStorable (q : ResetRequest) : Prop where
  requestedAt : 0 ≤ q.requestedAt.ns
  expiresAt : 0 ≤ q.expiresAt.ns

theorem restores {q : ResetRequest} (h : q.IsStorable) : codec.Restores q :=
  Record.restores_codec (by decide)
    ⟨.inr ⟨rfl, Codec.restores_snowflake _⟩, .inr ⟨rfl, Codec.restores_snowflake _⟩,
      .inr ⟨rfl, Codec.restores_bytes _⟩, .inr ⟨rfl, Codec.restores_time h.requestedAt⟩,
      .inr ⟨rfl, Codec.restores_time h.expiresAt⟩, trivial⟩ rfl

/-- No other requests are written. -/
theorem isStorable_of_writer {q : ResetRequest} {v : Value} (h : codec.writer q = .ok v) :
    q.IsStorable := by
  obtain ⟨-, -, -, hrequested, hexpires, -⟩ := Record.writable_of_writer h
  obtain ⟨_, hv⟩ := hrequested rfl
  obtain ⟨_, hw⟩ := hexpires rfl
  exact ⟨Codec.ns_nonneg_of_writer hv, Codec.ns_nonneg_of_writer hw⟩

theorem isStorable_of_encode {q : ResetRequest} {document : String}
    (h : codec.encode q = .ok document) : q.IsStorable := by
  obtain ⟨v, hv, -⟩ := map_eq_ok_iff.mp h
  exact isStorable_of_writer hv

/-- No other requests are read. -/
theorem isStorable_of_reads {q : ResetRequest} (h : codec.Reads q) : q.IsStorable := by
  obtain ⟨⟨id, accountId, key, requestedAt, expiresAt, _⟩,
    ⟨-, -, -, hrequested, hexpires, -⟩, rfl⟩ := Record.reads_of_codec h
  exact ⟨Codec.ns_nonneg_of_reads (hrequested.of_required rfl),
    Codec.ns_nonneg_of_reads (hexpires.of_required rfl)⟩

/-- What was written of a request is read as the request. -/
theorem decodeText_of_encode {q : ResetRequest} {document : String}
    (h : codec.encode q = .ok document) : codec.decodeText document = .ok q :=
  (restores (isStorable_of_encode h)).decodeText_of_encode h

end ChatKeys.ResetRequest
