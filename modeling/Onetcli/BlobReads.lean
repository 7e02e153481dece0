import Onetcli.Elasticsearch.Jobs

/-!
Blobs that are read in chunks, from the Elasticsearch provider (src/state/blob.rs) and from the
MongoDB drivers (drivers/mongodb-driver/src/common.rs). The chunks are sent in Base64, which is
left out. A read behind the end is answered with `done` by the second and without it by the first.
-/

namespace Onetcli.MongoDb

open Tables

/-- The bytes of a blob and how many of them were read. -/
abbrev BlobStore := Table String (List UInt8 × Nat)

def readBlob (store : BlobStore) (blobId : String) (maxBytes : Nat) :
    BlobStore × Except Elasticsearch.ProtocolError (List UInt8 × Bool) :=
  match store.lookup blobId with
  | none => (store, .error ⟨.resourceClosed, "blob is closed"⟩)
  | some (bytes, offset) =>
    let stop := min (offset + maxBytes) bytes.length
    let chunk := (bytes.drop offset).take (stop - offset)
    (store.insert blobId (bytes, stop), .ok (chunk, stop == bytes.length))

def closeBlob (store : BlobStore) (blobId : String) : BlobStore := store.erase blobId

/-- A length as a `u32`, the lowest byte first. -/
def lengthBytes (length : Nat) : List UInt8 :=
  [length, length / 2 ^ 8, length / 2 ^ 16, length / 2 ^ 24].map UInt8.ofNat

def packDocuments (documents : List (List UInt8)) : List UInt8 :=
  documents.flatMap fun bytes => lengthBytes bytes.length ++ bytes

structure MongoFindResult where
  documents : List (List UInt8)
  documentsBlobId : Option String
  documentCount : Nat

/-- The end of `find`: a result that is too long for the answer becomes a blob. -/
def findResult (inlineThreshold : Nat) (store : BlobStore) (nextBlobId : String)
    (documents : List (List UInt8)) : BlobStore × MongoFindResult :=
  if inlineThreshold < (packDocuments documents).length then
    (store.insert nextBlobId (packDocuments documents, 0),
      { documents := [], documentsBlobId := some nextBlobId, documentCount := documents.length })
  else (store, { documents, documentsBlobId := none, documentCount := documents.length })

end Onetcli.MongoDb

namespace Onetcli.BlobReads

open Tables Runs

abbrev Read := Except Elasticsearch.ProtocolError (List UInt8 × Bool)

def elasticReads (Value : Type) (blobId : String) :
    Machine (Elasticsearch.ProviderState Value) Nat Read where
  step state maxBytes := Elasticsearch.readBlob state blobId maxBytes

def mongoReads (blobId : String) : Machine MongoDb.BlobStore Nat Read where
  step store maxBytes := MongoDb.readBlob store blobId maxBytes

/-! ## What a reader is handed -/

/-- Chunks up to the end, and from then on nothing but the news that there is no more. -/
def served : List UInt8 → List Nat → List (List UInt8 × Bool)
  | _, [] => []
  | left, size :: sizes =>
    (left.take size, decide (left.length ≤ size)) :: served (left.drop size) sizes

/-- The same without the news behind the end. -/
def servedOnce : List UInt8 → List Nat → List (List UInt8 × Bool)
  | _, [] => []
  | left, size :: sizes =>
    (left.take size, decide (left.length ≤ size) && decide (0 < min size left.length)) ::
      servedOnce (left.drop size) sizes

def chunks (answers : List (List UInt8 × Bool)) : List UInt8 := (answers.map Prod.fst).flatten

/-- The answers hand out the bytes: `done` stands where the last one is handed out, it comes if
the reads go on, and nothing else comes behind it. -/
structure HandsOut (bytes : List UInt8) (answers : List (List UInt8 × Bool)) : Prop where
  ordered : chunks answers <+: bytes
  done_iff : ∀ front answer back, answers = front ++ answer :: back →
    (answer.2 = true ↔ chunks (front ++ [answer]) = bytes)
  comes : bytes.length ≤ answers.length → ∃ answer ∈ answers, answer.2 = true
  later : ∀ front answer back, answers = front ++ answer :: back → answer.2 = true →
    ∀ other ∈ back, other = ([], true)

theorem served_append (left : List UInt8) (first second : List Nat) :
    served left (first ++ second) = served left first ++ served (left.drop first.sum) second := by
  induction first generalizing left with
  | nil => simp [served]
  | cons size sizes ih =>
    rw [List.cons_append, served, served, ih, List.drop_drop, List.sum_cons, List.cons_append]

theorem served_length (left : List UInt8) (sizes : List Nat) :
    (served left sizes).length = sizes.length := by
  induction sizes generalizing left with
  | nil => rfl
  | cons size sizes ih => exact congrArg (· + 1) (ih _)

theorem served_chunks (left : List UInt8) (sizes : List Nat) :
    chunks (served left sizes) = left.take sizes.sum := by
  induction sizes generalizing left with
  | nil => rfl
  | cons size sizes ih =>
    have tail := ih (left.drop size)
    unfold chunks at tail ⊢
    rw [served, List.map_cons, List.flatten_cons, tail, List.sum_cons, List.take_add]

-- A place among the answers is a place among the reads.
theorem served_split {left : List UInt8} {sizes : List Nat}
    {front back : List (List UInt8 × Bool)} {answer : List UInt8 × Bool}
    (same : served left sizes = front ++ answer :: back) :
    ∃ before size after, sizes = before ++ size :: after ∧ front = served left before ∧
      answer.2 = decide (left.length ≤ (before ++ [size]).sum) ∧
      front ++ [answer] = served left (before ++ [size]) ∧
      back = served (left.drop (before ++ [size]).sum) after := by
  have short : front.length < sizes.length := by
    rw [← served_length left sizes, same]
    simp
  obtain ⟨before, size, after, rfl, length⟩ :
      ∃ before size after, sizes = before ++ size :: after ∧ before.length = front.length := by
    refine ⟨sizes.take front.length, sizes[front.length], sizes.drop (front.length + 1), ?_, ?_⟩
    · rw [← List.drop_eq_getElem_cons short, List.take_append_drop]
    · exact List.length_take_of_le (Nat.le_of_lt short)
  rw [served_append, served] at same
  obtain ⟨sameFront, rest⟩ := List.append_inj same (by rw [served_length, length])
  obtain ⟨rfl, rfl⟩ := List.cons.inj rest
  refine ⟨before, size, after, rfl, sameFront.symm, ?_, ?_, ?_⟩
  · simp only [List.length_drop, List.sum_append, List.sum_singleton]
    exact decide_eq_decide.mpr Nat.sub_le_iff_le_add'
  · rw [served_append, sameFront]
    rfl
  · rw [List.sum_append, List.sum_singleton, List.drop_drop]

theorem served_end (sizes : List Nat) : ∀ answer ∈ served [] sizes, answer = ([], true) := by
  induction sizes with
  | nil =>
    intro answer among
    cases among
  | cons size sizes ih =>
    intro answer among
    rw [served, List.drop_nil] at among
    rcases List.mem_cons.mp among with rfl | later
    · simp
    · exact ih answer later

theorem length_le_sum {sizes : List Nat} (positive : ∀ size ∈ sizes, 1 ≤ size) :
    sizes.length ≤ sizes.sum := by
  induction sizes with
  | nil => exact Nat.le_refl _
  | cons size sizes ih =>
    have first := positive size List.mem_cons_self
    have rest := ih fun other among => positive other (List.mem_cons_of_mem _ among)
    rw [List.length_cons, List.sum_cons]
    omega

theorem served_handsOut {bytes : List UInt8} {sizes : List Nat} (stored : bytes ≠ [])
    (positive : ∀ size ∈ sizes, 1 ≤ size) : HandsOut bytes (served bytes sizes) where
  ordered := by
    rw [served_chunks]
    exact List.take_prefix _ _
  done_iff front answer back same := by
    obtain ⟨before, size, after, rfl, _, done, upTo, _⟩ := served_split same
    rw [done, upTo, served_chunks, decide_eq_true_iff, List.take_eq_self_iff]
  comes enough := by
    rw [served_length] at enough
    have some : sizes ≠ [] := by
      rintro rfl
      exact stored (List.eq_nil_of_length_eq_zero (Nat.le_zero.mp enough))
    obtain ⟨before, size, rfl⟩ := (List.eq_nil_or_concat' sizes).resolve_left some
    have all := length_le_sum positive
    rw [List.sum_append, List.sum_singleton] at all
    have last : ((bytes.drop before.sum).take size,
        decide ((bytes.drop before.sum).length ≤ size)) ∈ served bytes (before ++ [size]) := by
      rw [served_append]
      exact List.mem_append_right _ List.mem_cons_self
    refine ⟨_, last, decide_eq_true ?_⟩
    rw [List.length_drop]
    omega
  later front answer back same done other among := by
    obtain ⟨before, size, after, rfl, _, holds, _, rest⟩ := served_split same
    rw [done] at holds
    rw [rest, List.drop_eq_nil_of_le (of_decide_eq_true holds.symm)] at among
    exact served_end after other among

theorem servedOnce_eq_iff {left : List UInt8} {sizes : List Nat} (some : left ≠ [])
    (positive : ∀ size ∈ sizes, 1 ≤ size) :
    servedOnce left sizes = served left sizes ↔ sizes.dropLast.sum < left.length := by
  induction sizes generalizing left with
  | nil => simpa [servedOnce, served] using List.length_pos_of_ne_nil some
  | cons size sizes ih =>
    have first := positive size List.mem_cons_self
    have filled := List.length_pos_of_ne_nil some
    have head : (decide (left.length ≤ size) && decide (0 < min size left.length)) =
        decide (left.length ≤ size) := by
      rw [decide_eq_true (Nat.lt_min.mpr ⟨first, filled⟩), Bool.and_true]
    rw [servedOnce, served, head, List.cons.injEq, and_iff_right rfl]
    cases sizes with
    | nil => simpa [servedOnce, served] using filled
    | cons next rest =>
      rw [List.dropLast_cons_cons, List.sum_cons]
      by_cases read : left.length ≤ size
      · -- the next read is behind the end
        rw [List.drop_eq_nil_of_le read, servedOnce, served]
        refine iff_of_false ?_ (by omega)
        simp
      · rw [ih (by simpa using read) fun other among =>
          positive other (List.mem_cons_of_mem _ among), List.length_drop]
        omega

/-! ## What the two hand out -/

theorem take_stop (bytes : List UInt8) (offset size : Nat) :
    (bytes.drop offset).take (min (offset + size) bytes.length - offset) =
      (bytes.drop offset).take size := by
  rw [List.take_eq_take_iff, List.length_drop]
  omega

theorem drop_stop (bytes : List UInt8) (offset size : Nat) :
    bytes.drop (min (offset + size) bytes.length) = (bytes.drop offset).drop size := by
  rw [List.drop_drop]
  rcases Nat.le_total (offset + size) bytes.length with inside | behind
  · rw [Nat.min_eq_left inside]
  · rw [Nat.min_eq_right behind, List.drop_length, List.drop_eq_nil_of_le behind]

theorem mongo_run {blobId : String} {store : MongoDb.BlobStore} {bytes : List UInt8} {offset : Nat}
    (found : store.lookup blobId = some (bytes, offset)) (within : offset ≤ bytes.length)
    (sizes : List Nat) :
    ((mongoReads blobId).run store sizes).2 = (served (bytes.drop offset) sizes).map .ok := by
  induction sizes generalizing store offset with
  | nil => rfl
  | cons size sizes ih =>
    have step : MongoDb.readBlob store blobId size =
        (store.insert blobId (bytes, min (offset + size) bytes.length),
          .ok ((bytes.drop offset).take size, decide ((bytes.drop offset).length ≤ size))) := by
      have atEnd : (min (offset + size) bytes.length == bytes.length) =
          decide ((bytes.drop offset).length ≤ size) := by
        rw [List.length_drop, Bool.beq_eq_decide_eq]
        exact decide_eq_decide.mpr (by omega)
      simp only [MongoDb.readBlob, found, take_stop, atEnd]
    have tail := ih (AList.lookup_insert (s := store)) (Nat.min_le_right (offset + size) _)
    rw [drop_stop] at tail
    simp only [Machine.run, mongoReads, step, served, List.map_cons] at tail ⊢
    rw [tail]

theorem elastic_run {Value : Type} {blobId : String} {state : Elasticsearch.ProviderState Value}
    {blob : Elasticsearch.ProviderBlob} (found : state.blobs.lookup blobId = some blob)
    (within : blob.offset ≤ blob.data.length) (sizes : List Nat) :
    ((elasticReads Value blobId).run state sizes).2 =
      (servedOnce (blob.data.drop blob.offset) sizes).map .ok := by
  induction sizes generalizing state blob with
  | nil => rfl
  | cons size sizes ih =>
    obtain ⟨resourceId, data, offset⟩ := blob
    have step : Elasticsearch.readBlob state blobId size =
        ({ state with
          blobs := state.blobs.insert blobId
            ⟨resourceId, data, min (offset + size) data.length⟩ },
          .ok ((data.drop offset).take size,
            decide ((data.drop offset).length ≤ size) &&
              decide (0 < min size (data.drop offset).length))) := by
      have atEnd : (min (offset + size) data.length == data.length) =
          decide ((data.drop offset).length ≤ size) := by
        rw [List.length_drop, Bool.beq_eq_decide_eq]
        exact decide_eq_decide.mpr (by dsimp only at within; omega)
      have some : 0 < min (offset + size) data.length - offset ↔
          0 < min size (data.drop offset).length := by
        rw [List.length_drop]
        omega
      simp only [Elasticsearch.readBlob, found, Nat.min_eq_left within, take_stop, atEnd,
        decide_eq_decide.mpr some]
    let next : Elasticsearch.ProviderBlob := ⟨resourceId, data, min (offset + size) data.length⟩
    have tail := @ih { state with blobs := state.blobs.insert blobId next } next
      (AList.lookup_insert _) (Nat.min_le_right _ _)
    rw [drop_stop] at tail
    simp only [Machine.run, elasticReads, step, servedOnce, List.map_cons] at tail ⊢
    rw [tail]

/-- For every sequence of reads the two answer the same, and hand out the bytes, exactly if no
read comes behind the one that hands out the last byte. -/
theorem blob_reads_agree_iff {Value : Type} {state : Elasticsearch.ProviderState Value}
    {store : MongoDb.BlobStore} {elasticId mongoId resourceId : String} {bytes : List UInt8}
    (elastic : state.blobs.lookup elasticId = some { resourceId, data := bytes })
    (mongo : store.lookup mongoId = some (bytes, 0)) (stored : bytes ≠ [])
    (effectiveMaxBytes : Option Nat → Nat) (positive : ∀ maxBytes, 1 ≤ effectiveMaxBytes maxBytes)
    (requests : List (Option Nat)) :
    (∃ answers, HandsOut bytes answers ∧
        ((elasticReads Value elasticId).run state (requests.map effectiveMaxBytes)).2 =
          answers.map .ok ∧
        ((mongoReads mongoId).run store (requests.map effectiveMaxBytes)).2 = answers.map .ok) ↔
      (requests.map effectiveMaxBytes).dropLast.sum < bytes.length := by
  have sizes : ∀ size ∈ requests.map effectiveMaxBytes, 1 ≤ size := by
    intro size among
    obtain ⟨maxBytes, _, rfl⟩ := List.mem_map.mp among
    exact positive maxBytes
  have ok : Function.Injective (Except.ok : List UInt8 × Bool → Read) :=
    fun _ _ same => Except.ok.inj same
  rw [elastic_run elastic (Nat.zero_le _), mongo_run mongo (Nat.zero_le _), List.drop_zero,
    ← servedOnce_eq_iff stored sizes]
  constructor
  · rintro ⟨answers, _, fromElastic, fromMongo⟩
    exact List.map_injective_iff.mpr ok (fromElastic.trans fromMongo.symm)
  · intro same
    exact ⟨_, served_handsOut stored sizes, by rw [same], rfl⟩

/-- A document of two bytes with its length in front, as the two providers store it. -/
def sixBytes : List UInt8 := MongoDb.packDocuments [[7, 8]]

def elasticSix : Elasticsearch.ProviderState (List UInt8) :=
  (Elasticsearch.storeBlob Elasticsearch.bytesPlatform {} "" sixBytes).1

def mongoSix : MongoDb.BlobStore := (MongoDb.findResult 3 ∅ "mongo-docs-1" [[7, 8]]).1

def fourByDefault (maxBytes : Option Nat) : Nat := max 1 (maxBytes.getD 4)

theorem fourByDefault_pos (maxBytes : Option Nat) : 1 ≤ fourByDefault maxBytes :=
  Nat.le_max_left _ _

theorem blob_reads_agree_six :
    ∃ answers, HandsOut sixBytes answers ∧
      ((elasticReads (List UInt8) "es-blob-").run elasticSix [4, 2]).2 = answers.map .ok ∧
      ((mongoReads "mongo-docs-1").run mongoSix [4, 2]).2 = answers.map .ok :=
  (@blob_reads_agree_iff (List UInt8) elasticSix mongoSix "es-blob-" "mongo-docs-1" "" sixBytes rfl
    rfl (by decide) fourByDefault fourByDefault_pos [none, some 2]).mpr (by decide)

/-- A third read is told by one provider alone that there is no more. -/
theorem blob_reads_differ :
    ¬ ∃ answers, HandsOut sixBytes answers ∧
      ((elasticReads (List UInt8) "es-blob-").run elasticSix [4, 2, 4]).2 = answers.map .ok ∧
      ((mongoReads "mongo-docs-1").run mongoSix [4, 2, 4]).2 = answers.map .ok := by
  rintro ⟨answers, _, fromElastic, fromMongo⟩
  have same := fromElastic.trans fromMongo.symm
  have last := congrArg List.getLast? same
  cases last

end Onetcli.BlobReads
