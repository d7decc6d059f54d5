import Mathlib.Data.List.Basic
import Mathlib.Data.List.Infix
import Mathlib.Data.UInt

/-! Saving an upload, on disk or in a bucket: as a stream of chunks, from a file, and from its bytes. -/

set_option autoImplicit false

namespace IdigestHub.Storage

abbrev Bytes : Type := List UInt8

inductive Rejection where
  | payloadTooLarge | invalidAudioContent
  deriving DecidableEq

def magicHeaderLen : Nat := 12

def readSize : Nat := 1024 * 1024

/-- The length of every part of a multipart upload but the last. -/
def s3PartSize : Nat := 5 * 1024 * 1024

def frameSync : Bytes → Bool
  | first :: second :: _ => first == 0xFF && second &&& 0xE0 == 0xE0
  | _ => false

section Headers

-- `str.lower`.
variable (lower : String → String)

def validateAudioHeader (suffix : String) (header : Bytes) : Bool :=
  let normalized := lower suffix
  if normalized = ".wav" then
    !(header.length < 12 || header.take 4 != [0x52, 0x49, 0x46, 0x46] || (header.take 12).drop 8 != [0x57, 0x41, 0x56, 0x45])
  else if normalized = ".mp3" then header.take 3 == [0x49, 0x44, 0x33] || frameSync header
  else if normalized = ".m4a" then !(header.length < 8 || (header.take 8).drop 4 != [0x66, 0x74, 0x79, 0x70])
  else if normalized = ".webm" then !(header.length < 4 || header.take 4 != [0x1a, 0x45, 0xdf, 0xa3])
  else if normalized = ".flac" then !(header.length < 4 || header.take 4 != [0x66, 0x4c, 0x61, 0x43])
  else if normalized = ".ogg" || normalized = ".opus" then !(header.length < 4 || header.take 4 != [0x4f, 0x67, 0x67, 0x53])
  else false

end Headers

/-- What `file.read` gives: a header of twelve bytes at most, and chunks until the file is at its end. -/
structure Reads where
  header : Bytes
  chunks : List Bytes
  fits : header.length ≤ magicHeaderLen
  ended : header = [] → chunks = []
  chunked : ∀ chunk ∈ chunks, chunk ≠ [] ∧ chunk.length ≤ readSize

def Reads.content (reads : Reads) : Bytes := reads.header ++ reads.chunks.flatten

def audioObjectKey (audioId suffix : String) : String := "uploads/" ++ audioId ++ "/original" ++ suffix

structure Part where
  number : Nat
  body : Bytes
  deriving DecidableEq

inductive Upload where
  | opened (parts : List Part)
  | aborted
  | completed (parts : List Part)
  deriving DecidableEq

/-- The object under one key, and the multipart uploads that were opened for it. -/
structure Bucket where
  object : Option Bytes
  uploads : List Upload

namespace Bucket

def empty : Bucket := { object := none, uploads := [] }

def uploadFileobj (bucket : Bucket) (body : Bytes) : Bucket := { bucket with object := some body }

def createMultipartUpload (bucket : Bucket) : Bucket × Nat :=
  ({ bucket with uploads := bucket.uploads ++ [.opened []] }, bucket.uploads.length)

def uploadPart (bucket : Bucket) (uploadId number : Nat) (body : Bytes) : Bucket :=
  match bucket.uploads[uploadId]? with
  | some (.opened parts) => { bucket with uploads := bucket.uploads.set uploadId (.opened (parts ++ [{ number, body }])) }
  | _ => bucket

/-- The object becomes the parts of the given numbers, in their order. -/
def completeMultipartUpload (bucket : Bucket) (uploadId : Nat) (numbers : List Nat) : Bucket :=
  match bucket.uploads[uploadId]? with
  | some (.opened parts) =>
    let chosen := (numbers.mergeSort (· ≤ ·)).filterMap fun number => parts.find? (·.number = number)
    { object := some (chosen.flatMap Part.body), uploads := bucket.uploads.set uploadId (.completed chosen) }
  | _ => bucket

def abortMultipartUpload (bucket : Bucket) (uploadId : Nat) : Bucket :=
  { bucket with uploads := bucket.uploads.set uploadId .aborted }

end Bucket

section Saving

variable (lower : String → String) (audioId suffix : String) (maxBytes : Nat)

/-- `_stream_upload_with_magic_check`: what is written, and how it ends. -/
def streamChunks : Nat → Bytes → List Bytes → Except Rejection Unit × Bytes
  | _, written, [] => (.ok (), written)
  | size, written, chunk :: rest =>
    if maxBytes < size + chunk.length then (.error .payloadTooLarge, written)
    else streamChunks (size + chunk.length) (written ++ chunk) rest

def streamUploadWithMagicCheck (reads : Reads) : Except Rejection Unit × Bytes :=
  if reads.header = [] then (.error .invalidAudioContent, [])
  else if !validateAudioHeader lower suffix reads.header then (.error .invalidAudioContent, [])
  else streamChunks maxBytes reads.header.length reads.header reads.chunks

namespace LocalStorageBackend

variable (root : String)

def dest : String := root ++ "/" ++ audioObjectKey audioId suffix

/-- The file at the destination; a rejected one is removed. -/
def saveUpload (reads : Reads) : Except Rejection String × Option Bytes :=
  match streamUploadWithMagicCheck lower suffix maxBytes reads with
  | (.ok (), written) => (.ok (dest audioId suffix root), some written)
  | (.error rejection, _) => (.error rejection, none)

def saveBytes (data : Bytes) : Except Rejection String × Option Bytes :=
  if maxBytes < data.length then (.error .payloadTooLarge, none)
  else if !validateAudioHeader lower suffix (data.take magicHeaderLen) then (.error .invalidAudioContent, none)
  else (.ok (dest audioId suffix root), some data)

def saveFilePath (source : Bytes) : Except Rejection String × Option Bytes :=
  if maxBytes < source.length then (.error .payloadTooLarge, none)
  else if !validateAudioHeader lower suffix (source.take magicHeaderLen) then (.error .invalidAudioContent, none)
  else (.ok (dest audioId suffix root), some source)

end LocalStorageBackend

/-- The variables of the loop of an upload to a bucket. -/
structure Transfer where
  bucket : Bucket
  size : Nat
  pending : Bytes
  uploadId : Option Nat
  parts : List Nat
  partNumber : Nat

namespace Transfer

def sendPart (t : Transfer) (body : Bytes) : Transfer :=
  let opened := match t.uploadId with
    | some id => (t.bucket, id)
    | none => t.bucket.createMultipartUpload
  { t with
    bucket := opened.1.uploadPart opened.2 t.partNumber body
    uploadId := some opened.2
    parts := t.parts ++ [t.partNumber]
    partNumber := t.partNumber + 1 }

def drain (t : Transfer) : Transfer :=
  if s3PartSize ≤ t.pending.length then
    drain { t.sendPart (t.pending.take s3PartSize) with pending := t.pending.drop s3PartSize }
  else t
termination_by t.pending.length
decreasing_by
  simp only [List.length_drop, s3PartSize] at *
  omega

def abortIfNeeded (t : Transfer) : Bucket := t.uploadId.elim t.bucket t.bucket.abortMultipartUpload

/-- The chunks one after the other; the bucket is left as it is when one is too much. -/
def feed (maxBytes : Nat) : Transfer → List Bytes → Except Bucket Transfer
  | t, [] => .ok t
  | t, chunk :: rest =>
    if maxBytes < t.size + chunk.length then .error t.abortIfNeeded
    else feed maxBytes (drain { t with size := t.size + chunk.length, pending := t.pending ++ chunk }) rest

def finish (t : Transfer) : Bucket :=
  match t.uploadId with
  | none => t.bucket.uploadFileobj t.pending
  | some id =>
    let t := if t.pending.isEmpty then t else t.sendPart t.pending
    t.bucket.completeMultipartUpload id t.parts

end Transfer

namespace S3StorageBackend

variable (bucketName : String)

def ref : String := "s3://" ++ bucketName ++ "/" ++ audioObjectKey audioId suffix

def saveUpload (reads : Reads) : Except Rejection String × Bucket :=
  if reads.header = [] then (.error .invalidAudioContent, .empty)
  else if !validateAudioHeader lower suffix reads.header then (.error .invalidAudioContent, .empty)
  else
    let start : Transfer :=
      { bucket := .empty, size := reads.header.length, pending := reads.header, uploadId := none, parts := [], partNumber := 1 }
    match start.feed maxBytes reads.chunks with
    | .error bucket => (.error .payloadTooLarge, bucket)
    | .ok t => (.ok (ref audioId suffix bucketName), t.finish)

def saveBytes (data : Bytes) : Except Rejection String × Bucket :=
  if maxBytes < data.length then (.error .payloadTooLarge, .empty)
  else if !validateAudioHeader lower suffix (data.take magicHeaderLen) then (.error .invalidAudioContent, .empty)
  else (.ok (ref audioId suffix bucketName), Bucket.empty.uploadFileobj data)

def saveFilePath (source : Bytes) : Except Rejection String × Bucket :=
  if maxBytes < source.length then (.error .payloadTooLarge, .empty)
  else if !validateAudioHeader lower suffix (source.take magicHeaderLen) then (.error .invalidAudioContent, .empty)
  else (.ok (ref audioId suffix bucketName), Bucket.empty.uploadFileobj source)

end S3StorageBackend

end Saving

def Acceptable (lower : String → String) (suffix : String) (maxBytes : Nat) (content : Bytes) : Prop :=
  content.length ≤ maxBytes ∧ validateAudioHeader lower suffix (content.take magicHeaderLen) = true

structure Parted (parts : List Part) (content : Bytes) : Prop where
  numbered : parts.map Part.number = List.range' 1 parts.length
  full : ∀ part ∈ parts.dropLast, part.body.length = s3PartSize
  whole : parts.flatMap Part.body = content

section Multipart

structure Sending (sent : List Part) (t : Transfer) : Prop where
  object : t.bucket.object = none
  uploads : t.bucket.uploads = if sent = [] then [] else [.opened sent]
  uploadId : t.uploadId = if sent = [] then none else some 0
  parts : t.parts = List.range' 1 sent.length
  numbered : sent.map Part.number = List.range' 1 sent.length
  partNumber : t.partNumber = sent.length + 1

structure Carries (sent : List Part) (content : Bytes) (t : Transfer) : Prop extends Sending sent t where
  full : ∀ part ∈ sent, part.body.length = s3PartSize
  whole : sent.flatMap Part.body ++ t.pending = content

variable {sent : List Part} {content : Bytes} {t : Transfer}

theorem Sending.sendPart (sending : Sending sent t) (body : Bytes) :
    Sending (sent ++ [{ number := t.partNumber, body }]) (t.sendPart body) := by
  obtain ⟨object, uploads, uploadId, parts, numbered, partNumber⟩ := sending
  have more : sent ++ [{ number := t.partNumber, body }] ≠ [] := by simp
  have range : List.range' 1 (sent ++ [({ number := t.partNumber, body } : Part)]).length =
      List.range' 1 sent.length ++ [sent.length + 1] := by
    rw [List.length_append, List.length_singleton, List.range'_concat, Nat.add_comm 1, Nat.one_mul]
  by_cases first : sent = []
  · subst first
    refine ⟨?_, ?_, ?_, ?_, ?_, ?_⟩
    all_goals simp_all [Transfer.sendPart, Bucket.createMultipartUpload, Bucket.uploadPart]
  · rw [if_neg first] at uploads uploadId
    refine ⟨?_, ?_, ?_, ?_, ?_, ?_⟩
    all_goals simp_all [Transfer.sendPart, Bucket.uploadPart]

theorem Carries.sendPart (carries : Carries sent content t) {body rest : Bytes} (pending : t.pending = body ++ rest)
    (full : body.length = s3PartSize) :
    Carries (sent ++ [{ number := t.partNumber, body }]) content { t.sendPart body with pending := rest } := by
  obtain ⟨object, uploads, uploadId, parts, numbered, partNumber⟩ := carries.toSending.sendPart body
  refine ⟨⟨object, uploads, uploadId, parts, numbered, partNumber⟩, ?_, ?_⟩
  · intro part member
    rcases List.mem_append.mp member with before | last
    · exact carries.full part before
    · rw [List.mem_singleton.mp last]
      exact full
  · rw [List.flatMap_append, List.flatMap_singleton, List.append_assoc, ← carries.whole, pending]

theorem Carries.drain (carries : Carries sent content t) :
    ∃ sent, Carries sent content t.drain ∧ t.drain.size = t.size := by
  induction t using Transfer.drain.induct generalizing sent with
  | case1 t enough ih =>
    rw [Transfer.drain, if_pos enough]
    have split : t.pending = t.pending.take s3PartSize ++ t.pending.drop s3PartSize := (List.take_append_drop _ _).symm
    exact ih (carries.sendPart split (List.length_take_of_le enough))
  | case2 t few =>
    rw [Transfer.drain, if_neg few]
    exact ⟨sent, carries, rfl⟩

theorem Carries.aborted (carries : Carries sent content t) :
    t.abortIfNeeded.object = none ∧ ∀ upload ∈ t.abortIfNeeded.uploads, upload = .aborted := by
  obtain ⟨⟨object, uploads, uploadId, _, _, _⟩, _, _⟩ := carries
  rw [Transfer.abortIfNeeded, uploadId]
  by_cases none : sent = []
  · rw [if_pos none] at uploads ⊢
    simp [object, uploads]
  · rw [if_neg none] at uploads ⊢
    simp [Bucket.abortMultipartUpload, object, uploads]

/-- The chunks pass while they are within the limit, and what is carried is the content; by induction on the chunks. -/
theorem Carries.feed (carries : Carries sent content t) (size : t.size = content.length) (maxBytes : Nat) (chunks : List Bytes) :
    match t.feed maxBytes chunks with
    | .ok last => (∃ sent, Carries sent (content ++ chunks.flatten) last) ∧
        (chunks = [] ∨ (content ++ chunks.flatten).length ≤ maxBytes)
    | .error bucket => (bucket.object = none ∧ ∀ upload ∈ bucket.uploads, upload = .aborted) ∧
        chunks ≠ [] ∧ maxBytes < (content ++ chunks.flatten).length := by
  induction chunks generalizing sent content t with
  | nil =>
    rw [Transfer.feed, List.flatten_nil, List.append_nil]
    exact ⟨⟨sent, carries⟩, .inl rfl⟩
  | cons chunk rest ih =>
    rw [Transfer.feed]
    by_cases large : maxBytes < t.size + chunk.length
    · rw [if_pos large]
      refine ⟨carries.aborted, List.cons_ne_nil _ _, ?_⟩
      rw [size] at large
      simp only [List.flatten_cons, List.length_append]
      omega
    · rw [if_neg large]
      have grown : Carries sent (content ++ chunk) { t with size := t.size + chunk.length, pending := t.pending ++ chunk } :=
        ⟨⟨carries.object, carries.uploads, carries.uploadId, carries.parts, carries.numbered, carries.partNumber⟩, carries.full,
          by rw [← List.append_assoc, carries.whole]⟩
      obtain ⟨next, drained, same⟩ := grown.drain
      have length : (Transfer.drain { t with size := t.size + chunk.length, pending := t.pending ++ chunk }).size =
          (content ++ chunk).length := by
        rw [same, List.length_append, size]
      have onwards := ih drained length
      rw [List.append_assoc, ← List.flatten_cons] at onwards
      generalize Transfer.feed maxBytes _ rest = result at onwards
      cases result with
      | error bucket => exact ⟨onwards.1, List.cons_ne_nil _ _, onwards.2.2⟩
      | ok last =>
        refine ⟨onwards.1, .inr ?_⟩
        rcases onwards.2 with rfl | within
        · rw [size] at large
          simp only [List.flatten_cons, List.flatten_nil, List.append_nil, List.length_append]
          omega
        · exact within

theorem filterMap_find {parts : List Part} (nodup : (parts.map Part.number).Nodup) :
    ((parts.map Part.number).filterMap fun number => parts.find? (·.number = number)) = parts := by
  have own : ∀ part ∈ parts, parts.find? (·.number = part.number) = some part := by
    intro part member
    cases found : parts.find? (·.number = part.number) with
    | none => exact absurd (List.find?_eq_none.mp found part member) (by simp)
    | some other =>
      have same : other.number = part.number := by simpa using List.find?_some found
      rw [List.inj_on_of_nodup_map nodup (List.mem_of_find?_eq_some found) member same]
  rw [List.filterMap_map]
  refine (List.filterMap_congr fun part member => ?_).trans List.filterMap_some
  exact own part member

theorem complete_sending (sending : Sending sent t) (opened : sent ≠ []) :
    (t.bucket.completeMultipartUpload 0 t.parts).object = some (sent.flatMap Part.body) ∧
      (t.bucket.completeMultipartUpload 0 t.parts).uploads = [.completed sent] := by
  obtain ⟨_, uploads, _, parts, numbered, _⟩ := sending
  rw [if_neg opened] at uploads
  have nodup : (sent.map Part.number).Nodup := numbered ▸ List.nodup_range'
  have sorted : (t.parts.mergeSort (· ≤ ·)) = sent.map Part.number := by
    rw [numbered, parts]
    refine List.mergeSort_of_pairwise (List.pairwise_le_range'.imp fun less => ?_)
    simpa using less
  have first : t.bucket.uploads[0]? = some (.opened sent) := by rw [uploads]; rfl
  rw [Bucket.completeMultipartUpload, first]
  dsimp only
  rw [sorted, filterMap_find nodup, uploads]
  exact ⟨rfl, rfl⟩

theorem Carries.finish (carries : Carries sent content t) : t.finish.object = some content ∧
    (t.finish.uploads = [] ∨ ∃ parts, t.finish.uploads = [.completed parts] ∧ Parted parts content) := by
  by_cases none : sent = []
  · have whole := carries.whole
    have uploadId := carries.uploadId
    have uploads := carries.uploads
    rw [none, List.flatMap_nil, List.nil_append] at whole
    rw [if_pos none] at uploadId uploads
    rw [Transfer.finish, uploadId, Bucket.uploadFileobj, whole]
    exact ⟨rfl, .inl uploads⟩
  · have uploadId := carries.uploadId
    rw [if_neg none] at uploadId
    rw [Transfer.finish, uploadId]
    dsimp only
    cases pending : t.pending with
    | nil =>
      obtain ⟨object, uploads⟩ := complete_sending carries.toSending none
      have whole := carries.whole
      rw [pending, List.append_nil] at whole
      rw [List.isEmpty_nil, if_pos rfl, object, whole]
      refine ⟨rfl, .inr ⟨sent, uploads, carries.numbered, fun part member => ?_, whole⟩⟩
      exact carries.full part (List.mem_of_mem_dropLast member)
    | cons first rest =>
      have sending := carries.toSending.sendPart (first :: rest)
      obtain ⟨object, uploads⟩ := complete_sending sending (by simp)
      have whole : (sent ++ [({ number := t.partNumber, body := first :: rest } : Part)]).flatMap Part.body = content := by
        have carried := carries.whole
        rw [pending] at carried
        rw [List.flatMap_append, List.flatMap_singleton]
        exact carried
      rw [List.isEmpty_cons, if_neg Bool.false_ne_true, object, whole]
      refine ⟨rfl, .inr ⟨_, uploads, sending.numbered, fun part member => ?_, whole⟩⟩
      rw [List.dropLast_concat] at member
      exact carries.full part member

end Multipart

section Headers

variable {lower : String → String} {suffix : String} {header longer : Bytes}

theorem take_of_initial (starts : header <+: longer) {n : Nat} (enough : n ≤ header.length) : longer.take n = header.take n := by
  obtain ⟨rest, rfl⟩ := starts
  rw [List.take_append_of_le_length enough]

theorem validateAudioHeader_nil : validateAudioHeader lower suffix [] = false := by
  simp [validateAudioHeader, frameSync]

theorem validateAudioHeader_of_prefix (starts : header <+: longer) (valid : validateAudioHeader lower suffix header = true) :
    validateAudioHeader lower suffix longer = true := by
  have length := starts.length_le
  -- Every check reads bytes at fixed places, behind a check that they are there.
  have marked {n : Nat} {seen : Bytes → Bool} (given : (!(decide (header.length < n) || seen (header.take n))) = true) :
      (!(decide (longer.length < n) || seen (longer.take n))) = true := by
    simp only [Bool.not_eq_true', Bool.or_eq_false_iff, decide_eq_false_iff_not, Nat.not_lt] at given ⊢
    rw [take_of_initial starts given.1]
    exact ⟨given.1.trans length, given.2⟩
  rw [validateAudioHeader] at valid ⊢
  split_ifs at valid ⊢ with wav mp3 m4a webm flac ogg
  · simp only [Bool.not_eq_true', Bool.or_eq_false_iff, decide_eq_false_iff_not, Nat.not_lt] at valid ⊢
    obtain ⟨⟨enough, riff⟩, wave⟩ := valid
    rw [take_of_initial starts enough, take_of_initial starts (by omega)]
    exact ⟨⟨enough.trans length, riff⟩, wave⟩
  · rw [Bool.or_eq_true] at valid ⊢
    rcases valid with tagged | framed
    · left
      have enough : 3 ≤ header.length := by
        have three := congrArg List.length (beq_iff_eq.mp tagged)
        rw [List.length_take] at three
        simp at three
        omega
      rw [take_of_initial starts enough, tagged]
    · right
      obtain ⟨rest, rfl⟩ := starts
      match header, framed with
      | first :: second :: tail, framed => exact framed
  · exact @marked _ (fun bytes => bytes.drop 4 != [0x66, 0x74, 0x79, 0x70]) valid
  · exact @marked _ (fun bytes => bytes != [0x1a, 0x45, 0xdf, 0xa3]) valid
  · exact @marked _ (fun bytes => bytes != [0x66, 0x4c, 0x61, 0x43]) valid
  · exact @marked _ (fun bytes => bytes != [0x4f, 0x67, 0x67, 0x53]) valid

end Headers

section Agreement

variable {lower : String → String} {audioId suffix : String} {maxBytes : Nat} {reads : Reads}

/-- What a stream is accepted by: the limit is looked at with each chunk, and the header where it has been read to. -/
def Streams (lower : String → String) (suffix : String) (maxBytes : Nat) (reads : Reads) : Prop :=
  validateAudioHeader lower suffix reads.header = true ∧ (reads.chunks = [] ∨ reads.content.length ≤ maxBytes)

/-- An accepted content is stored as it is, and of a rejected one nothing is. -/
def Honest (content : Bytes) (answer : Except Rejection String) (object : Option Bytes) : Prop :=
  match answer with
  | .ok _ => object = some content
  | .error _ => object = none

/-- The limit is looked at once at least, and the header is read far enough. -/
structure Agreeing (lower : String → String) (suffix : String) (maxBytes : Nat) (reads : Reads) : Prop where
  counted : reads.chunks = [] → validateAudioHeader lower suffix reads.header = true → reads.content.length ≤ maxBytes
  headed : Acceptable lower suffix maxBytes reads.content → validateAudioHeader lower suffix reads.header = true

theorem streams_iff : (Streams lower suffix maxBytes reads ↔ Acceptable lower suffix maxBytes reads.content) ↔
    Agreeing lower suffix maxBytes reads := by
  have starts : reads.header <+: reads.content.take magicHeaderLen := by
    refine List.prefix_take_iff.mpr ⟨List.prefix_append _ _, reads.fits⟩
  constructor
  · intro same
    exact ⟨fun none valid => (same.mp ⟨valid, .inl none⟩).1, fun acceptable => (same.mpr acceptable).1⟩
  · intro agreeing
    constructor
    · rintro ⟨valid, none | within⟩
      · exact ⟨agreeing.counted none valid, validateAudioHeader_of_prefix starts valid⟩
      · exact ⟨within, validateAudioHeader_of_prefix starts valid⟩
    · exact fun acceptable => ⟨agreeing.headed acceptable, .inr acceptable.1⟩

theorem streamChunks_spec (size : Nat) (written : Bytes) (chunks : List Bytes) (counted : size = written.length) :
    match streamChunks maxBytes size written chunks with
    | (.ok (), all) => all = written ++ chunks.flatten ∧ (chunks = [] ∨ (written ++ chunks.flatten).length ≤ maxBytes)
    | (.error _, _) => chunks ≠ [] ∧ maxBytes < (written ++ chunks.flatten).length := by
  induction chunks generalizing size written with
  | nil => simp [streamChunks]
  | cons chunk rest ih =>
    rw [streamChunks]
    by_cases large : maxBytes < size + chunk.length
    · rw [if_pos large]
      refine ⟨List.cons_ne_nil _ _, ?_⟩
      rw [counted] at large
      simp only [List.flatten_cons, List.length_append]
      omega
    · rw [if_neg large]
      have onwards := ih (size + chunk.length) (written ++ chunk) (by rw [List.length_append, counted])
      rw [List.append_assoc, ← List.flatten_cons] at onwards
      generalize streamChunks maxBytes _ _ rest = result at onwards
      obtain ⟨ended, all⟩ := result
      cases ended with
      | error rejection => exact ⟨List.cons_ne_nil _ _, onwards.2⟩
      | ok done =>
        refine ⟨onwards.1, .inr ?_⟩
        rcases onwards.2 with rfl | within
        · rw [counted] at large
          simp only [List.flatten_cons, List.flatten_nil, List.append_nil, List.length_append]
          omega
        · exact within

theorem local_saveUpload (root : String) (reads : Reads) :
    match LocalStorageBackend.saveUpload lower audioId suffix maxBytes root reads with
    | (.ok _, file) => Streams lower suffix maxBytes reads ∧ file = some reads.content
    | (.error _, file) => ¬ Streams lower suffix maxBytes reads ∧ file = none := by
  rw [LocalStorageBackend.saveUpload, streamUploadWithMagicCheck]
  by_cases empty : reads.header = []
  · rw [if_pos empty]
    refine ⟨fun streams => ?_, rfl⟩
    have valid := streams.1
    rw [empty, validateAudioHeader_nil] at valid
    contradiction
  · rw [if_neg empty]
    cases valid : validateAudioHeader lower suffix reads.header with
    | false => exact ⟨fun streams => Bool.false_ne_true (valid.symm.trans streams.1), rfl⟩
    | true =>
      have spec := @streamChunks_spec maxBytes reads.header.length reads.header reads.chunks rfl
      rw [Bool.not_true, if_neg Bool.false_ne_true]
      generalize streamChunks maxBytes reads.header.length reads.header reads.chunks = result at spec
      obtain ⟨ended, all⟩ := result
      cases ended with
      | error rejection =>
        refine ⟨fun streams => ?_, rfl⟩
        exact streams.2.elim spec.1 fun within => absurd spec.2 (Nat.not_lt.mpr within)
      | ok done => exact ⟨⟨valid, spec.2⟩, congrArg some spec.1⟩

theorem s3_saveUpload (bucketName : String) (reads : Reads) :
    match S3StorageBackend.saveUpload lower audioId suffix maxBytes bucketName reads with
    | (.ok _, bucket) => Streams lower suffix maxBytes reads ∧ bucket.object = some reads.content ∧
        (bucket.uploads = [] ∨ ∃ parts, bucket.uploads = [.completed parts] ∧ Parted parts reads.content)
    | (.error _, bucket) => ¬ Streams lower suffix maxBytes reads ∧ bucket.object = none ∧
        ∀ upload ∈ bucket.uploads, upload = .aborted := by
  rw [S3StorageBackend.saveUpload]
  have nothing : Bucket.empty.object = none ∧ ∀ upload ∈ Bucket.empty.uploads, upload = .aborted := ⟨rfl, by simp [Bucket.empty]⟩
  by_cases empty : reads.header = []
  · rw [if_pos empty]
    refine ⟨fun streams => ?_, nothing⟩
    have valid := streams.1
    rw [empty, validateAudioHeader_nil] at valid
    contradiction
  · rw [if_neg empty]
    cases valid : validateAudioHeader lower suffix reads.header with
    | false => exact ⟨fun streams => Bool.false_ne_true (valid.symm.trans streams.1), nothing⟩
    | true =>
      have start : Carries [] reads.header
          { bucket := .empty, size := reads.header.length, pending := reads.header, uploadId := none, parts := [],
            partNumber := 1 } :=
        ⟨⟨rfl, rfl, rfl, rfl, rfl, rfl⟩, fun part member => absurd member List.not_mem_nil, rfl⟩
      have spec := start.feed rfl maxBytes reads.chunks
      rw [Bool.not_true, if_neg Bool.false_ne_true]
      dsimp only
      generalize Transfer.feed maxBytes _ reads.chunks = result at spec
      cases result with
      | error bucket =>
        refine ⟨fun streams => ?_, spec.1⟩
        exact streams.2.elim spec.2.1 fun within => absurd spec.2.2 (Nat.not_lt.mpr within)
      | ok last =>
        obtain ⟨⟨sent, carries⟩, within⟩ := spec
        exact ⟨⟨valid, within⟩, carries.finish⟩

/-- What each way of saving answers, and the object that it leaves. -/
def answers (lower : String → String) (audioId suffix : String) (maxBytes : Nat) (root bucketName : String) (reads : Reads) :
    List (Except Rejection String × Option Bytes) :=
  let object (saved : Except Rejection String × Bucket) := (saved.1, saved.2.object)
  [LocalStorageBackend.saveUpload lower audioId suffix maxBytes root reads,
    LocalStorageBackend.saveBytes lower audioId suffix maxBytes root reads.content,
    LocalStorageBackend.saveFilePath lower audioId suffix maxBytes root reads.content,
    object (S3StorageBackend.saveUpload lower audioId suffix maxBytes bucketName reads),
    object (S3StorageBackend.saveBytes lower audioId suffix maxBytes bucketName reads.content),
    object (S3StorageBackend.saveFilePath lower audioId suffix maxBytes bucketName reads.content)]

def Closed (content : Bytes) (saved : Except Rejection String × Bucket) : Prop :=
  match saved.1 with
  | .ok _ => saved.2.uploads = [] ∨ ∃ parts, saved.2.uploads = [.completed parts] ∧ Parted parts content
  | .error _ => ∀ upload ∈ saved.2.uploads, upload = .aborted

/-- Every way of saving accepts the acceptable contents, stores these, and leaves nothing of the others. -/
structure Uniform (lower : String → String) (audioId suffix : String) (maxBytes : Nat) (root bucketName : String)
    (reads : Reads) :
    Prop where
  accepts : ∀ answer ∈ answers lower audioId suffix maxBytes root bucketName reads,
    answer.1.isOk = true ↔ Acceptable lower suffix maxBytes reads.content
  honest : ∀ answer ∈ answers lower audioId suffix maxBytes root bucketName reads, Honest reads.content answer.1 answer.2
  closed : Closed reads.content (S3StorageBackend.saveUpload lower audioId suffix maxBytes bucketName reads)

/-- An answer that is given exactly where a condition holds, with an object that fits. -/
structure Given (condition : Prop) (content : Bytes) (answer : Except Rejection String × Option Bytes) : Prop where
  accepts : answer.1.isOk = true ↔ condition
  honest : Honest content answer.1 answer.2

theorem given_checked {name : String} {content : Bytes} : Given (Acceptable lower suffix maxBytes content) content
    (if maxBytes < content.length then (.error .payloadTooLarge, none)
    else if !validateAudioHeader lower suffix (content.take magicHeaderLen) then (.error .invalidAudioContent, none)
    else (.ok name, some content)) := by
  rw [Acceptable]
  by_cases large : maxBytes < content.length
  · rw [if_pos large]
    exact ⟨iff_of_false Bool.false_ne_true fun acceptable => absurd large (Nat.not_lt.mpr acceptable.1), rfl⟩
  · rw [if_neg large]
    cases valid : validateAudioHeader lower suffix (content.take magicHeaderLen) with
    | false => exact ⟨iff_of_false Bool.false_ne_true fun acceptable => Bool.false_ne_true acceptable.2, rfl⟩
    | true => exact ⟨iff_of_true rfl ⟨Nat.not_lt.mp large, rfl⟩, rfl⟩

theorem given_local (root : String) (reads : Reads) : Given (Streams lower suffix maxBytes reads) reads.content
    (LocalStorageBackend.saveUpload lower audioId suffix maxBytes root reads) := by
  have spec := @local_saveUpload lower audioId suffix maxBytes root reads
  generalize LocalStorageBackend.saveUpload lower audioId suffix maxBytes root reads = saved at spec
  obtain ⟨answer, file⟩ := saved
  cases answer with
  | ok name => exact ⟨iff_of_true rfl spec.1, spec.2⟩
  | error rejection => exact ⟨iff_of_false Bool.false_ne_true spec.1, spec.2⟩

theorem given_s3 (bucketName : String) (reads : Reads) :
    Given (Streams lower suffix maxBytes reads) reads.content
      ((S3StorageBackend.saveUpload lower audioId suffix maxBytes bucketName reads).1,
        (S3StorageBackend.saveUpload lower audioId suffix maxBytes bucketName reads).2.object) ∧
      Closed reads.content (S3StorageBackend.saveUpload lower audioId suffix maxBytes bucketName reads) := by
  have spec := @s3_saveUpload lower audioId suffix maxBytes bucketName reads
  generalize S3StorageBackend.saveUpload lower audioId suffix maxBytes bucketName reads = saved at spec
  obtain ⟨answer, bucket⟩ := saved
  cases answer with
  | ok name => exact ⟨⟨iff_of_true rfl spec.1, spec.2.1⟩, spec.2.2⟩
  | error rejection => exact ⟨⟨iff_of_false Bool.false_ne_true spec.1, spec.2.1⟩, spec.2.2⟩

theorem given_s3_checked (bucketName : String) (content : Bytes) :
    Given (Acceptable lower suffix maxBytes content) content
      ((S3StorageBackend.saveBytes lower audioId suffix maxBytes bucketName content).1,
        (S3StorageBackend.saveBytes lower audioId suffix maxBytes bucketName content).2.object) := by
  have checked := @given_checked lower suffix maxBytes (S3StorageBackend.ref audioId suffix bucketName) content
  rw [S3StorageBackend.saveBytes]
  by_cases large : maxBytes < content.length
  · rw [if_pos large] at checked ⊢
    exact checked
  · rw [if_neg large] at checked ⊢
    cases valid : validateAudioHeader lower suffix (content.take magicHeaderLen) with
    | false =>
      rw [valid] at checked
      exact checked
    | true =>
      rw [valid] at checked
      exact checked

/-- The six ways of saving agree exactly where the streams count their bytes. -/
theorem uploads_uniform_iff (lower : String → String) (audioId suffix : String) (maxBytes : Nat) (root bucketName : String)
    (reads : Reads) : Uniform lower audioId suffix maxBytes root bucketName reads ↔ Agreeing lower suffix maxBytes reads := by
  have disk : Given (Streams lower suffix maxBytes reads) reads.content
    (LocalStorageBackend.saveUpload lower audioId suffix maxBytes root reads) := given_local root reads
  obtain ⟨cloud, closed⟩ := @given_s3 lower audioId suffix maxBytes bucketName reads
  have checked := @given_checked lower suffix maxBytes (LocalStorageBackend.dest audioId suffix root) reads.content
  have stored := @given_s3_checked lower audioId suffix maxBytes bucketName reads.content
  rw [← streams_iff]
  constructor
  · intro uniform
    exact disk.accepts.symm.trans (uniform.accepts _ List.mem_cons_self)
  · intro same
    have all : ∀ answer ∈ answers lower audioId suffix maxBytes root bucketName reads,
        Given (Acceptable lower suffix maxBytes reads.content) reads.content answer := by
      simp only [answers, List.forall_mem_cons]
      exact ⟨⟨disk.accepts.trans same, disk.honest⟩, checked, checked, ⟨cloud.accepts.trans same, cloud.honest⟩, stored, stored,
        fun _ member => absurd member List.not_mem_nil⟩
    exact ⟨fun answer member => (all answer member).accepts, fun answer member => (all answer member).honest, closed⟩

end Agreement

/-- Three bytes that pass for a tagged MP3, read at once. -/
def shortTag : Reads where
  header := [0x49, 0x44, 0x33]
  chunks := []
  fits := by decide
  ended _ := rfl
  chunked := fun _ member => absurd member List.not_mem_nil

/-- A file of three bytes is streamed past a limit of two. -/
theorem short_file_passes_limit : ¬ Uniform id "1" ".mp3" 2 "data" "audios" shortTag := by
  intro uniform
  have streamed : (LocalStorageBackend.saveUpload id "1" ".mp3" 2 "data" shortTag).1.isOk = true := by decide +kernel
  have within := ((uniform.accepts _ List.mem_cons_self).mp streamed).1
  exact absurd within (by decide)

end IdigestHub.Storage
