import NexusRemote.BigEndian

/-!
# Streams that arrive in pieces

A stream delivers its bytes in chunks, none of them empty, and then ends. One
read gives at most one chunk and at most the number of bytes asked for. Loops
that read on until they have enough, or until the end, give a result that the
chunks do not influence.
-/

namespace ChunkedStreams

open BigEndian

structure ByteStream where
  chunks : List Bytes
  nonempty : ∀ c ∈ chunks, c ≠ []

namespace ByteStream

/-- Everything the stream will deliver. -/
def bytes (s : ByteStream) : Bytes := s.chunks.flatten

/-- One read into a buffer of `cap` bytes; `none` at the end of the stream. -/
def read (s : ByteStream) (cap : Nat) : Option Bytes × ByteStream :=
  match s with
  | ⟨[], h⟩ => (none, ⟨[], h⟩)
  | ⟨c :: cs, h⟩ =>
    if hcap : c.length ≤ cap then (some c, ⟨cs, fun d hd => h d (List.mem_cons_of_mem c hd)⟩)
    else
      (some (c.take cap), {
        chunks := c.drop cap :: cs
        nonempty := by
          intro d hd
          rcases List.mem_cons.mp hd with rfl | hd
          · intro hnil
            have := List.drop_eq_nil_iff.mp hnil
            omega
          · exact h d (List.mem_cons_of_mem c hd) })

/-- What one read can give. -/
theorem read_cases (s : ByteStream) {cap : Nat} (hcap : 0 < cap) :
    (s.bytes = [] ∧ s.read cap = (none, s)) ∨
      ∃ b got rest, s.read cap = (some (b :: got), rest) ∧ got.length < cap ∧
        s.bytes = b :: got ++ rest.bytes := by
  rcases s with ⟨_ | ⟨c, cs⟩, h⟩
  · exact Or.inl ⟨rfl, rfl⟩
  · rcases c with _ | ⟨b, c⟩
    · exact absurd rfl (h [] List.mem_cons_self)
    · obtain ⟨cap, rfl⟩ : ∃ k, cap = k + 1 := ⟨cap - 1, by omega⟩
      by_cases hfit : (b :: c).length ≤ cap + 1
      · have hlt : c.length < cap + 1 := by
          rw [List.length_cons] at hfit
          omega
        exact Or.inr ⟨b, c, _, dif_pos hfit, hlt, rfl⟩
      · refine Or.inr ⟨b, c.take cap, _, dif_neg hfit, ?_, ?_⟩
        · rw [List.length_take]
          omega
        · simp [bytes, ← List.append_assoc]

/-- Reads until `n` bytes are there or the stream ends. -/
def fill (s : ByteStream) (n : Nat) : Bytes × ByteStream :=
  if n = 0 then ([], s)
  else
    match s.read n with
    | (some (b :: got), rest) =>
      (b :: got ++ (fill rest (n - (b :: got).length)).1, (fill rest (n - (b :: got).length)).2)
    | (_, rest) => ([], rest)
termination_by n
decreasing_by all_goals simp only [List.length_cons]; omega

theorem fill_eq (s : ByteStream) (n : Nat) :
    (s.fill n).1 = s.bytes.take n ∧ (s.fill n).2.bytes = s.bytes.drop n := by
  induction n using Nat.strongRecOn generalizing s with
  | ind n ih =>
    rw [fill]
    split
    case isTrue hzero =>
      subst hzero
      exact ⟨rfl, rfl⟩
    case isFalse hpos =>
      rcases s.read_cases (Nat.pos_of_ne_zero hpos) with ⟨hend, hread⟩ | ⟨b, got, rest, hread, hlen, hbytes⟩
      · rw [hread, hend]
        exact ⟨List.take_nil.symm, List.drop_nil.symm⟩
      · rw [hread]
        obtain ⟨htake, hdrop⟩ := ih (n - (b :: got).length) (by rw [List.length_cons]; omega) rest
        have hle : (b :: got).length ≤ n := by
          rw [List.length_cons]
          omega
        simp only
        rw [htake, hdrop, hbytes, List.take_append, List.drop_append, List.take_of_length_le hle,
          List.drop_eq_nil_of_le hle, List.nil_append]
        exact ⟨rfl, rfl⟩

/-- Reads exactly `n` bytes, or reports how many there were. -/
def readExact (s : ByteStream) (n : Nat) : Except Nat (Bytes × ByteStream) :=
  if (s.fill n).1.length < n then .error (s.fill n).1.length else .ok (s.fill n)

theorem readExact_of_lt {s : ByteStream} {n : Nat} (h : s.bytes.length < n) :
    s.readExact n = .error s.bytes.length := by
  rw [readExact, (s.fill_eq n).1, List.take_of_length_le (by omega), if_pos h]

theorem readExact_of_le {s : ByteStream} {n : Nat} (h : n ≤ s.bytes.length) :
    ∃ rest, s.readExact n = .ok (s.bytes.take n, rest) ∧ rest.bytes = s.bytes.drop n := by
  obtain ⟨htake, hdrop⟩ := s.fill_eq n
  refine ⟨(s.fill n).2, ?_, hdrop⟩
  rw [readExact, if_neg]
  · rw [← htake]
  · rw [htake, List.length_take]
    omega

theorem bytes_of_read {s rest : ByteStream} {cap : Nat} {got : Bytes}
    (h : s.read cap = (some got, rest)) : s.bytes = got ++ rest.bytes := by
  rcases s with ⟨_ | ⟨c, cs⟩, hne⟩
  · cases h
  · rw [read] at h
    split at h
    · cases h
      rfl
    · cases h
      simp [bytes, ← List.append_assoc]

/-- Reads to the end, unless more than `limit` bytes come together. -/
def collect (limit cap : Nat) (s : ByteStream) (buf : Bytes) : Option Bytes :=
  match _h : s.read cap with
  | (some (b :: got), rest) =>
    if buf.length + (b :: got).length > limit then none
    else collect limit cap rest (buf ++ b :: got)
  | _ => some buf
termination_by s.bytes.length
decreasing_by
  rw [bytes_of_read _h, List.length_append, List.length_cons]
  omega

theorem collect_eq {limit cap : Nat} (hcap : 0 < cap) (s : ByteStream) (buf : Bytes)
    (hbuf : buf.length ≤ limit) :
    s.collect limit cap buf =
      if buf.length + s.bytes.length ≤ limit then some (buf ++ s.bytes) else none := by
  induction hn : s.bytes.length using Nat.strongRecOn generalizing s buf with
  | ind n ih =>
    subst hn
    rw [collect]
    rcases s.read_cases hcap with ⟨hend, hread⟩ | ⟨b, got, rest, hread, hlen, hbytes⟩
    · rw [hread, hend, List.append_nil, List.length_nil, if_pos (by omega)]
    · have hlength : s.bytes.length = (b :: got).length + rest.bytes.length := by
        rw [hbytes, List.length_append]
      rw [hread]
      by_cases hlarge : buf.length + (b :: got).length > limit
      · rw [if_neg (show ¬buf.length + s.bytes.length ≤ limit by omega)]
        exact if_pos hlarge
      · have hshorter : rest.bytes.length < s.bytes.length := by
          rw [hlength, List.length_cons]
          omega
        have hbuf' : (buf ++ b :: got).length ≤ limit := by
          rw [List.length_append]
          omega
        have hrest := ih rest.bytes.length hshorter rest (buf ++ b :: got) hbuf' rfl
        rw [List.length_append, Nat.add_assoc, ← hlength, List.append_assoc, ← hbytes] at hrest
        exact (if_neg hlarge).trans hrest

end ByteStream

end ChunkedStreams
