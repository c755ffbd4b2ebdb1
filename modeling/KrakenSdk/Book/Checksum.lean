import KrakenSdk.Book.Builder
/-!
# What the checksum feeds its hasher (book/checksum.rs)

`update_stripped` copies a wire string into a 32-byte stack buffer, leaving out dots and leading zeros,
and hands the hasher one chunk whenever the buffer is full and one more at the end. Here the hasher is a
parameter, so that the chunks themselves can be looked at: they concatenate to the stripped strings
(`checksum_feed`), and a hasher that does not see where its input is split cannot tell the difference.
-/
namespace KrakenSdk.Book

/-! ## The code over any hasher -/

/-- `crc32fast::Hasher`, as far as the checksum uses it. -/
structure HasherOps (σ δ : Type) where
  new : σ
  update : σ → List UInt8 → σ
  finalize : σ → δ

/-- `WireLevel` (checksum.rs:6): the price and the quantity string of a level. -/
abbrev WireLevel := String × String

/-- The locals of `update_stripped` (checksum.rs:38-41). -/
structure StripLocals (σ : Type) where
  hasher : σ
  buf : Vector UInt8 stripBufLen
  len : Nat
  leading : Bool
  len_le : len ≤ stripBufLen

namespace StripLocals

variable {σ δ : Type} (H : HasherOps σ δ)

/-- The locals before the loop. -/
def start (h : σ) : StripLocals σ :=
  { hasher := h, buf := Vector.replicate stripBufLen 0, len := 0, leading := true, len_le := Nat.zero_le _ }

/-- `&buf[..len]`. -/
def filled (st : StripLocals σ) : List UInt8 := st.buf.toList.take st.len

theorem filled_start (h : σ) : (start h).filled = [] := rfl

/-- `if len == STRIP_BUF_LEN { hasher.update(&buf); len = 0; }`: the buffer keeps its bytes. -/
def flushFull (st : StripLocals σ) : StripLocals σ :=
  if st.len = stripBufLen then
    { st with hasher := H.update st.hasher st.buf.toList, len := 0, len_le := Nat.zero_le _ }
  else st

theorem len_flushFull (st : StripLocals σ) : (st.flushFull H).len < stripBufLen := by
  unfold flushFull
  split_ifs with h
  · exact Nat.zero_lt_succ _
  · exact lt_of_le_of_ne st.len_le h

/-- `buf[len] = b; len += 1;`. -/
def push (st : StripLocals σ) (b : UInt8) (h : st.len < stripBufLen) : StripLocals σ :=
  { st with buf := st.buf.set st.len b h, len := st.len + 1, len_le := h }

/-- The body of the loop: dots and leading zeros go. -/
def byte (st : StripLocals σ) (b : UInt8) : StripLocals σ :=
  if b = '.'.toUInt8 then st
  else if st.leading && b == '0'.toUInt8 then st
  else (({ st with leading := false } : StripLocals σ).flushFull H).push b (len_flushFull H _)

end StripLocals

namespace HasherOps

variable {σ δ : Type} (H : HasherOps σ δ)

/-- `update_stripped` (checksum.rs:37). -/
def updateStripped (h : σ) (s : String) : σ :=
  let st := s.toUTF8.toList.foldl (StripLocals.byte H) (.start h)
  H.update st.hasher st.filled

/-- One level of the loops of `compute_book_crc32`. -/
def updateLevel (h : σ) (l : WireLevel) : σ := H.updateStripped (H.updateStripped h l.1) l.2

/-- `compute_book_crc32` (checksum.rs:15). -/
def computeBookCrc32 (asksTopN bidsTopN : List WireLevel) : δ :=
  H.finalize (bidsTopN.foldl H.updateLevel (asksTopN.foldl H.updateLevel H.new))

/-- The digest of chunks, one `update` each. -/
def digest (chunks : List (List UInt8)) : δ := H.finalize (chunks.foldl H.update H.new)

/-- Where the input is split does not show in the digest. -/
def SplitInvariant : Prop := ∀ cs ds : List (List UInt8), cs.flatten = ds.flatten → H.digest cs = H.digest ds

end HasherOps

/-- The chunks themselves. -/
def recorder : HasherOps (List (List UInt8)) (List (List UInt8)) where
  new := []
  update chunks buf := chunks ++ [buf]
  finalize chunks := chunks

/-- The CRC-32 register. -/
def crc32Ops : HasherOps Hasher Nat where
  new := .new
  update := .update
  finalize := Hasher.finalize

/-! ## What it should feed -/

/-- A wire string without its dots, and then without its leading zeros. -/
def stripped (s : String) : List UInt8 :=
  (s.toUTF8.toList.filter (· ≠ '.'.toUInt8)).dropWhile (· = '0'.toUInt8)

/-- Price, then quantity, of each level. -/
def strippedLevels (levels : List WireLevel) : List UInt8 := levels.flatMap fun l => stripped l.1 ++ stripped l.2

/-- The asks, then the bids. -/
def strippedBook (asks bids : List WireLevel) : List UInt8 := strippedLevels asks ++ strippedLevels bids

/-- What the loop keeps of the bytes still to come. -/
def keeps (leading : Bool) (bytes : List UInt8) : List UInt8 :=
  if leading then (bytes.filter (· ≠ '.'.toUInt8)).dropWhile (· = '0'.toUInt8) else bytes.filter (· ≠ '.'.toUInt8)

section keeps

variable {b : UInt8} {bytes : List UInt8} {leading : Bool}

theorem keeps_dot : keeps leading ('.'.toUInt8 :: bytes) = keeps leading bytes := by
  simp [keeps]

theorem keeps_leadingZero : keeps true ('0'.toUInt8 :: bytes) = keeps true bytes := by
  have hne : '0'.toUInt8 ≠ '.'.toUInt8 := by decide
  simp [keeps, hne]

theorem keeps_other (hdot : b ≠ '.'.toUInt8) (hzero : ¬ (leading = true ∧ b = '0'.toUInt8)) :
    keeps leading (b :: bytes) = b :: keeps false bytes := by
  cases leading with
  | false => simp [keeps, hdot]
  | true =>
    have hb : b ≠ '0'.toUInt8 := fun h => hzero ⟨rfl, h⟩
    simp [keeps, hdot, hb]

end keeps

/-! ## The chunks -/

section chunks

variable {σ δ : Type} (H : HasherOps σ δ)

/-- From hasher `h` to hasher `h'` by chunks that concatenate to `bytes`. -/
def Fed (h h' : σ) (bytes : List UInt8) : Prop := 
  ∃ chunks : List (List UInt8), h' = chunks.foldl H.update h ∧ chunks.flatten = bytes

variable {H} {h h' h'' : σ} {xs ys : List UInt8}

theorem Fed.refl : Fed H h h [] := ⟨[], rfl, rfl⟩

theorem Fed.chunk (buf : List UInt8) : Fed H h (H.update h buf) buf := ⟨[buf], rfl, by simp⟩

theorem Fed.trans (hx : Fed H h h' xs) (hy : Fed H h' h'' ys) : Fed H h h'' (xs ++ ys) := by
  obtain ⟨cs, rfl, rfl⟩ := hx
  obtain ⟨ds, rfl, rfl⟩ := hy
  exact ⟨cs ++ ds, by rw [List.foldl_append], by rw [List.flatten_append]⟩

/-- A full buffer is what is filled. -/
theorem filled_of_full {st : StripLocals σ} (hfull : st.len = stripBufLen) : st.filled = st.buf.toList := by
  rw [StripLocals.filled, hfull]
  exact List.take_of_length_le (by simp)

theorem filled_push {st : StripLocals σ} (b : UInt8) (hlt : st.len < stripBufLen) :
    (st.push b hlt).filled = st.filled ++ [b] := by
  show (st.buf.set st.len b hlt).toList.take (st.len + 1) = st.buf.toList.take st.len ++ [b]
  rw [Vector.toList_set, List.take_set, List.take_succ_eq_append_getElem (by simpa using hlt)]
  have hlen : (st.buf.toList.take st.len).length = st.len := by simp; omega
  rw [List.set_append_right _ _ (by omega), hlen, Nat.sub_self]
  rfl

/-- A flush moves what is filled to the hasher. -/
theorem fed_flushFull (st : StripLocals σ) :
    ∃ bytes, Fed H st.hasher (st.flushFull H).hasher bytes ∧ bytes ++ (st.flushFull H).filled = st.filled := by
  unfold StripLocals.flushFull
  split_ifs with hfull
  · exact ⟨st.buf.toList, .chunk _, by rw [filled_of_full hfull]; exact List.append_nil _⟩
  · exact ⟨[], .refl, rfl⟩

/-- **One byte**: what was fed and what is filled grow by what the loop keeps of it. -/
theorem fed_byte (st : StripLocals σ) (b : UInt8) (bytes : List UInt8) :
    ∃ fed, Fed H st.hasher (st.byte H b).hasher fed ∧
      fed ++ (st.byte H b).filled ++ keeps (st.byte H b).leading bytes = st.filled ++ keeps st.leading (b :: bytes) := by
  by_cases hdot : b = '.'.toUInt8
  · refine ⟨[], ?_, ?_⟩
    · rw [StripLocals.byte, if_pos hdot]
      exact .refl
    · rw [StripLocals.byte, if_pos hdot, hdot, keeps_dot]
      rfl
  · by_cases hzero : st.leading = true ∧ b = '0'.toUInt8
    · have hskip : st.byte H b = st := by
        rw [StripLocals.byte, if_neg hdot, if_pos (by simp [hzero.1, hzero.2])]
      refine ⟨[], ?_, ?_⟩
      · rw [hskip]
        exact .refl
      · rw [hskip, hzero.1, hzero.2, keeps_leadingZero]
        rfl
    · obtain ⟨fed, hfed, hfilled⟩ := fed_flushFull { st with leading := false }
      have hbyte : st.byte H b =
          (({ st with leading := false } : StripLocals σ).flushFull H).push b (StripLocals.len_flushFull H _) := by
        rw [StripLocals.byte, if_neg hdot, if_neg (by simpa using hzero)]
      have hleading : (({ st with leading := false } : StripLocals σ).flushFull H).leading = false := by
        unfold StripLocals.flushFull
        split <;> rfl
      refine ⟨fed, ?_, ?_⟩
      · rw [hbyte]
        exact hfed
      · rw [hbyte, filled_push, keeps_other hdot hzero, ← List.append_assoc, hfilled]
        show st.filled ++ [b] ++ keeps (({ st with leading := false } : StripLocals σ).flushFull H).leading bytes = _
        rw [hleading, List.append_assoc]
        rfl

/-- The loop. -/
theorem fed_bytes (bytes : List UInt8) (st : StripLocals σ) :
    ∃ fed, Fed H st.hasher (bytes.foldl (StripLocals.byte H) st).hasher fed ∧
      fed ++ (bytes.foldl (StripLocals.byte H) st).filled = st.filled ++ keeps st.leading bytes := by
  induction bytes generalizing st with
  | nil => exact ⟨[], .refl, by simp [keeps]⟩
  | cons b bytes ih =>
    obtain ⟨fed, hfed, hbyte⟩ := fed_byte st b bytes
    obtain ⟨fed', hfed', hrest⟩ := ih (st.byte H b)
    refine ⟨fed ++ fed', hfed.trans hfed', ?_⟩
    rw [List.foldl_cons, List.append_assoc, hrest, ← List.append_assoc, hbyte]

theorem fed_updateStripped (h : σ) (s : String) : Fed H h (H.updateStripped h s) (stripped s) := by
  obtain ⟨fed, hfed, hall⟩ := fed_bytes (H := H) s.toUTF8.toList (.start h)
  have hstripped : stripped s = keeps true s.toUTF8.toList := rfl
  rw [StripLocals.filled_start, List.nil_append] at hall
  rw [hstripped, show keeps true s.toUTF8.toList = _ from hall.symm]
  exact hfed.trans (.chunk _)

theorem fed_levels (levels : List WireLevel) (h : σ) : Fed H h (levels.foldl H.updateLevel h) (strippedLevels levels) := by
  induction levels generalizing h with
  | nil => exact .refl
  | cons l levels ih =>
    have hlevel : Fed H h (H.updateLevel h l) (stripped l.1 ++ stripped l.2) :=
      (fed_updateStripped h l.1).trans (fed_updateStripped _ l.2)
    exact hlevel.trans (ih _)

theorem fed_book (asks bids : List WireLevel) :
    Fed H H.new (bids.foldl H.updateLevel (asks.foldl H.updateLevel H.new)) (strippedBook asks bids) :=
  (fed_levels asks _).trans (fed_levels bids _)

end chunks

/-! ## The digest -/

/-- What a recorder has been fed is what it holds. -/
theorem foldl_recorder (chunks acc : List (List UInt8)) : chunks.foldl recorder.update acc = acc ++ chunks := by
  induction chunks generalizing acc with
  | nil => exact (List.append_nil _).symm
  | cons c chunks ih =>
    rw [List.foldl_cons, ih]
    simp [recorder]

/-- **The chunks are the stripped strings**, asks before bids and price before quantity, and a hasher that
does not see the splits hashes their concatenation. -/
theorem checksum_feed {σ δ : Type} (H : HasherOps σ δ) (asks bids : List WireLevel) :
    (recorder.computeBookCrc32 asks bids).flatten = strippedBook asks bids ∧
      (H.SplitInvariant →
        H.computeBookCrc32 asks bids = H.finalize (H.update H.new (strippedBook asks bids))) := by
  constructor
  · obtain ⟨chunks, hchunks, hflat⟩ := fed_book (H := recorder) asks bids
    have hcompute : recorder.computeBookCrc32 asks bids = chunks := by
      show recorder.finalize (bids.foldl recorder.updateLevel (asks.foldl recorder.updateLevel recorder.new)) = chunks
      rw [hchunks, foldl_recorder]
      rfl
    rw [hcompute, hflat]
  · intro hsplit
    obtain ⟨chunks, hchunks, hflat⟩ := fed_book (H := H) asks bids
    have hone := hsplit chunks [strippedBook asks bids] (by simpa using hflat)
    rw [HasherOps.computeBookCrc32, hchunks]
    exact hone

/-- The CRC-32 register takes its input byte by byte. -/
theorem splitInvariant_crc32Ops : crc32Ops.SplitInvariant := by
  have hfold : ∀ (chunks : List (List UInt8)) (h : Hasher),
      chunks.foldl Hasher.update h = chunks.flatten.foldl crcByte h := by
    intro chunks
    induction chunks with
    | nil => exact fun _ => rfl
    | cons c chunks ih =>
      intro h
      rw [List.foldl_cons, ih, List.flatten_cons, List.foldl_append]
      rfl
  intro cs ds hflat
  show Hasher.finalize (cs.foldl Hasher.update Hasher.new) = Hasher.finalize (ds.foldl Hasher.update Hasher.new)
  rw [hfold, hfold, hflat]

theorem checksum_feed_crc32 :
    crc32Ops.computeBookCrc32 [("45285.21000000", "1.5")] [("45282.11000000", "0.45")] =
      crc32Ops.finalize (crc32Ops.update crc32Ops.new
        (strippedBook [("45285.21000000", "1.5")] [("45282.11000000", "0.45")])) :=
  (checksum_feed crc32Ops _ _).2 splitInvariant_crc32Ops

/-! ## The checksum of the maintained book -/

/-- The strings of a level. -/
def PriceLevel.wire (l : PriceLevel) : WireLevel := (l.priceWire, l.qtyWire)

/-- The buffer as a list is the filled part of the buffer. -/
theorem updateStripped_crc32Ops (h : Hasher) (s : String) : updateStripped h s = crc32Ops.updateStripped h s := by
  have hsim : ∀ (bytes : List UInt8) (st : StripState) (l : StripLocals Hasher),
      st.hasher = l.hasher ∧ st.buf = l.filled ∧ st.leading = l.leading →
        (bytes.foldl stripByte st).hasher = (bytes.foldl (StripLocals.byte crc32Ops) l).hasher ∧
          (bytes.foldl stripByte st).buf = (bytes.foldl (StripLocals.byte crc32Ops) l).filled := by
    intro bytes
    induction bytes with
    | nil => exact fun _ _ h => ⟨h.1, h.2.1⟩
    | cons b bytes ih =>
      rintro st l ⟨hhash, hbuf, hleading⟩
      refine ih _ _ ?_
      have hlen : st.buf.length = l.len := by
        have hle := l.len_le
        rw [hbuf]
        simp [StripLocals.filled]
        omega
      unfold stripByte StripLocals.byte
      rw [hleading]
      split_ifs with hdot hzero hfull
      · exact ⟨hhash, hbuf, hleading⟩
      · exact ⟨hhash, hbuf, hleading⟩
      · have hflush : StripLocals.flushFull crc32Ops { l with leading := false } =
            { l with hasher := l.hasher.update l.buf.toList, len := 0, leading := false, len_le := Nat.zero_le _ } :=
          if_pos (hlen.symm.trans hfull)
        refine ⟨?_, ?_, ?_⟩
        · simp only [StripLocals.push, hflush]
          rw [hhash, hbuf, filled_of_full (hlen.symm.trans hfull)]
        · rw [filled_push]
          simp [hflush, StripLocals.filled]
        · simp only [StripLocals.push, hflush]
      · have hflush : StripLocals.flushFull crc32Ops { l with leading := false } = { l with leading := false } :=
          if_neg fun hl => hfull (hlen.trans hl)
        refine ⟨?_, ?_, ?_⟩
        · simp only [StripLocals.push, hflush]
          exact hhash
        · rw [filled_push, hflush, hbuf]
          rfl
        · simp only [StripLocals.push, hflush]
  obtain ⟨hhash, hbuf⟩ := hsim s.toUTF8.toList ⟨h, [], true⟩ (.start h) ⟨rfl, rfl, rfl⟩
  show Hasher.update _ _ = Hasher.update _ _
  rw [hhash, hbuf]

/-- **The checksum of a book is the CRC-32 of its stripped levels.** -/
theorem computeBookCrc32_eq (asks bids : List PriceLevel) :
    computeBookCrc32 asks bids =
      (Hasher.new.update (strippedBook (asks.map PriceLevel.wire) (bids.map PriceLevel.wire))).finalize := by
  have hlevels : ∀ (levels : List PriceLevel) (h : Hasher),
      levels.foldl updateLevel h = (levels.map PriceLevel.wire).foldl crc32Ops.updateLevel h := by
    intro levels
    induction levels with
    | nil => exact fun _ => rfl
    | cons l levels ih =>
      intro h
      rw [List.foldl_cons, ih, List.map_cons, List.foldl_cons]
      congr 1
      rw [updateLevel, updateStripped_crc32Ops, updateStripped_crc32Ops]
      rfl
  obtain ⟨chunks, hchunks, hflat⟩ := fed_book (H := crc32Ops) (asks.map PriceLevel.wire) (bids.map PriceLevel.wire)
  have hone := splitInvariant_crc32Ops chunks [strippedBook (asks.map PriceLevel.wire) (bids.map PriceLevel.wire)]
    (by simpa using hflat)
  rw [computeBookCrc32, hlevels, hlevels]
  show crc32Ops.finalize ((bids.map PriceLevel.wire).foldl crc32Ops.updateLevel
    ((asks.map PriceLevel.wire).foldl crc32Ops.updateLevel crc32Ops.new)) = _
  rw [hchunks]
  exact hone

end KrakenSdk.Book
