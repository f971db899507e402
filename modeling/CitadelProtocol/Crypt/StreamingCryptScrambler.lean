import CitadelProtocol.Crypt.CryptSplitter

/-! # Streaming a file as groups

`scramble_encrypt_source` measures the source, checks the group size and counts the groups,
`ceil(len / max_bytes_per_group)`. A spawned task then polls an `AsyncCryptScrambler`, which
reads the next `min(remaining, max_bytes_per_group)` bytes of the source for each group and
renders them under the group id `group_id + groups_rendered`.

Rendering one group is `par_scramble_encrypt_group`, modelled in `GroupSender`; here a rendered
group is its id and its plaintext, which is what the receiver gets back from it when the
per-group round trip holds. The result of this module: the groups are the consecutive pieces of
the source under consecutive wrapping ids from the start id, so put back together they are the
source.
-/

namespace CitadelProtocol.Crypt

open Bytes

/-- `DEFAULT_BYTES_PER_GROUP`. -/
def defaultBytesPerGroup : Nat := 1024 * 1024 * 3

/-- `AsyncCryptScrambler`, with the fields that decide each group's bytes and id; `reader` is
what the buffered reader has not read yet of the source. -/
structure AsyncCryptScrambler where
  reader : List UInt8
  fileLen : Nat
  readCursor : Nat
  groupId : UInt64
  totalGroups : Nat
  groupsRendered : Nat
  maxBytesPerGroup : Nat

namespace AsyncCryptScrambler

/-- `poll_scramble_next_group`, with the rendering task succeeding: the next group's id and
bytes, or `none` once the cursor is at the end of the file or `read_exact` runs short. -/
def pollScrambleNextGroup (s : AsyncCryptScrambler) :
    Option ((UInt64 × List UInt8) × AsyncCryptScrambler) :=
  if s.readCursor ≠ s.fileLen then
    let remaining := s.fileLen - s.readCursor
    let pollLen := min remaining s.maxBytesPerGroup
    if pollLen ≤ s.reader.length then
      let groupIdInput := s.groupId + UInt64.ofNat s.groupsRendered
      some ((groupIdInput, s.reader.take pollLen),
        { s with
          reader := s.reader.drop pollLen
          groupsRendered := s.groupsRendered + 1
          readCursor := s.readCursor + pollLen })
    else none
  else none

/-- `file_streamer`: poll until the scrambler ends, at most `fuel` times. -/
def fileStreamer : Nat → AsyncCryptScrambler → List (UInt64 × List UInt8)
  | 0, _ => []
  | fuel + 1, s =>
      match s.pollScrambleNextGroup with
      | some (group, s) => group :: fileStreamer fuel s
      | none => []

/-- The groups still to come: the pieces of what the reader holds, under the ids that follow
the groups rendered so far. -/
def remainingGroups (s : AsyncCryptScrambler) : List (UInt64 × List UInt8) :=
  (chunks s.maxBytesPerGroup s.reader).mapIdx fun k chunk =>
    (s.groupId + UInt64.ofNat (s.groupsRendered + k), chunk)

/-- What the polls keep: the reader holds the rest of the file. -/
structure Reading (s : AsyncCryptScrambler) : Prop where
  size_pos : 0 < s.maxBytesPerGroup
  cursor_le : s.readCursor ≤ s.fileLen
  length_reader : s.reader.length = s.fileLen - s.readCursor

theorem pollScrambleNextGroup_of_end {s : AsyncCryptScrambler} (hend : s.readCursor = s.fileLen) :
    s.pollScrambleNextGroup = none := by
  simp [pollScrambleNextGroup, hend]

/-- Before the end of the file a poll renders the first piece of the reader under the next id,
and keeps reading. -/
theorem pollScrambleNextGroup_of_reading {s : AsyncCryptScrambler} (hs : s.Reading)
    (hend : s.readCursor ≠ s.fileLen) :
    ∃ s', s.pollScrambleNextGroup =
        some ((s.groupId + UInt64.ofNat s.groupsRendered, s.reader.take s.maxBytesPerGroup), s') ∧
      s'.Reading ∧ s'.fileLen - s'.readCursor < s.fileLen - s.readCursor ∧
      s'.remainingGroups = (s.remainingGroups).tail := by
  have hlen := hs.length_reader
  have hpos := hs.size_pos
  have hcursor := hs.cursor_le
  -- the poll reads `min remaining size` bytes, which is as many as `take size` keeps
  have htake : s.reader.take (min (s.fileLen - s.readCursor) s.maxBytesPerGroup) =
      s.reader.take s.maxBytesPerGroup := by
    rw [List.take_eq_take_iff]
    omega
  have hdrop : s.reader.drop (min (s.fileLen - s.readCursor) s.maxBytesPerGroup) =
      s.reader.drop s.maxBytesPerGroup := by
    rw [List.drop_eq_drop_iff]
    omega
  have hne : s.reader ≠ [] := by
    rw [← List.length_pos_iff]
    omega
  refine ⟨{ s with
      reader := s.reader.drop s.maxBytesPerGroup
      groupsRendered := s.groupsRendered + 1
      readCursor := s.readCursor + min (s.fileLen - s.readCursor) s.maxBytesPerGroup },
    ?_, ⟨hpos, by simp only; omega, by simp only [List.length_drop]; omega⟩, by simp only; omega, ?_⟩
  · simp only [pollScrambleNextGroup, ne_eq, hend, not_false_eq_true, hlen, if_pos, htake,
      hdrop, Nat.le_refl, min_le_iff, true_or]
  · simp only [remainingGroups, chunks_of_ne_nil hpos hne, List.mapIdx_cons, List.tail_cons]
    refine List.mapIdx_eq_mapIdx_iff.mpr fun k _ => ?_
    simp only [Nat.add_assoc, Nat.add_comm 1 k]

/-- Given more polls than bytes left, the streamer renders every remaining group: the fuel
never cuts the loop short. -/
theorem fileStreamer_eq_remainingGroups {fuel : Nat} {s : AsyncCryptScrambler} (hs : s.Reading)
    (hfuel : s.fileLen - s.readCursor < fuel) :
    s.fileStreamer fuel = s.remainingGroups := by
  induction fuel generalizing s with
  | zero => omega
  | succ fuel ih =>
      by_cases hend : s.readCursor = s.fileLen
      · -- at the end the reader is empty, and so are the groups still to come
        have hnil : s.reader = [] := List.eq_nil_of_length_eq_zero (by rw [hs.length_reader]; omega)
        simp [fileStreamer, pollScrambleNextGroup_of_end hend, remainingGroups, hnil, chunks,
          divCeil]
      · obtain ⟨s', hpoll, hs', hdecr, hrest⟩ := pollScrambleNextGroup_of_reading hs hend
        have hne : s.reader ≠ [] := by
          rw [← List.length_pos_iff, hs.length_reader]
          omega
        simp only [fileStreamer, hpoll]
        rw [ih hs' (by omega), hrest]
        simp [remainingGroups, chunks_of_ne_nil hs.size_pos hne]

end AsyncCryptScrambler

/-- `scramble_encrypt_source`: the file's length and group count, with the groups the spawned
task renders from the group id `groupId`; `none` is the panic of `Integer::div_ceil` on a group
size of 0. Each poll reads at least one byte, so `len + 1` polls reach the end of the file
(`fileStreamer_eq_remainingGroups`). -/
def scrambleEncryptSource (source : List UInt8) (maxGroupSize : Option Nat) (groupId : UInt64) :
    Option (Except SplitterError (Nat × Nat × List (UInt64 × List UInt8))) :=
  let objectLen := source.length
  let bytesPerGroup := maxGroupSize.getD defaultBytesPerGroup
  if bytesPerGroup > maxBytesPerGroup then
    some (.error (.encrypt ("Maximum group size cannot be larger than " ++
      toString maxBytesPerGroup ++ " bytes")))
  else if bytesPerGroup = 0 then none
  else
    let totalGroups := divCeil objectLen bytesPerGroup
    let fileScrambler : AsyncCryptScrambler :=
      { reader := source, fileLen := objectLen, readCursor := 0, groupId := groupId,
        totalGroups := totalGroups, groupsRendered := 0, maxBytesPerGroup := bytesPerGroup }
    some (.ok (objectLen, totalGroups, fileScrambler.fileStreamer (objectLen + 1)))

/-- The groups of a source: its pieces of `bytesPerGroup` bytes, the `k`-th under the id
`groupId + k`. -/
def sourceGroups (source : List UInt8) (bytesPerGroup : Nat) (groupId : UInt64) :
    List (UInt64 × List UInt8) :=
  (chunks bytesPerGroup source).mapIdx fun k chunk => (groupId + UInt64.ofNat k, chunk)

/-- With a group size in `(0, MAX_BYTES_PER_GROUP]`, `scramble_encrypt_source` counts
`ceil(len / size)` groups and renders exactly the source's groups. -/
theorem scrambleEncryptSource_eq {source : List UInt8} {maxGroupSize : Option Nat}
    {groupId : UInt64} (hpos : 0 < maxGroupSize.getD defaultBytesPerGroup)
    (hmax : maxGroupSize.getD defaultBytesPerGroup ≤ maxBytesPerGroup) :
    scrambleEncryptSource source maxGroupSize groupId =
      some (.ok (source.length, divCeil source.length (maxGroupSize.getD defaultBytesPerGroup),
        sourceGroups source (maxGroupSize.getD defaultBytesPerGroup) groupId)) := by
  have hreading : AsyncCryptScrambler.Reading
      { reader := source, fileLen := source.length, readCursor := 0, groupId := groupId,
        totalGroups := divCeil source.length (maxGroupSize.getD defaultBytesPerGroup),
        groupsRendered := 0, maxBytesPerGroup := maxGroupSize.getD defaultBytesPerGroup } :=
    ⟨hpos, Nat.zero_le _, by simp⟩
  simp only [scrambleEncryptSource, gt_iff_lt, Nat.not_lt.mpr hmax, if_false,
    Nat.pos_iff_ne_zero.mp hpos]
  rw [AsyncCryptScrambler.fileStreamer_eq_remainingGroups hreading (by simp)]
  simp [AsyncCryptScrambler.remainingGroups, sourceGroups]

@[simp] theorem length_sourceGroups (source : List UInt8) (bytesPerGroup : Nat) (groupId : UInt64) :
    (sourceGroups source bytesPerGroup groupId).length = divCeil source.length bytesPerGroup := by
  simp [sourceGroups]

/-- The first group of a non-empty source is its first piece, under the start id; the others
are the groups of the rest, from the next id. -/
theorem sourceGroups_of_ne_nil {source : List UInt8} {bytesPerGroup : Nat} (hpos : 0 < bytesPerGroup)
    (hsource : source ≠ []) (groupId : UInt64) :
    sourceGroups source bytesPerGroup groupId =
      (groupId, source.take bytesPerGroup) ::
        sourceGroups (source.drop bytesPerGroup) bytesPerGroup (groupId + 1) := by
  simp only [sourceGroups, chunks_of_ne_nil hpos hsource, List.mapIdx_cons, List.cons.injEq]
  refine ⟨by simp, List.mapIdx_eq_mapIdx_iff.mpr fun k _ => ?_⟩
  simp only [UInt64.ofNat_add, UInt64.ofNat_one]
  congr 1
  grind

/-- The groups' bytes, put back together, are the source. -/
theorem flatMap_sourceGroups {source : List UInt8} {bytesPerGroup : Nat} (hpos : 0 < bytesPerGroup)
    (groupId : UInt64) :
    (sourceGroups source bytesPerGroup groupId).flatMap Prod.snd = source := by
  have hsnd : (sourceGroups source bytesPerGroup groupId).map Prod.snd =
      chunks bytesPerGroup source := by
    apply List.ext_getElem <;> simp [sourceGroups]
  rw [List.flatMap_def, hsnd, flatten_chunks hpos]

end CitadelProtocol.Crypt
