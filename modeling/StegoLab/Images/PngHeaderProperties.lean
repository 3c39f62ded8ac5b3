import StegoLab.Images.PngScan

/-!
# What the gate of PNG images accepts

The bytes of an accepted image are those of a list of chunks in the grammar, and the other way round.
-/

namespace StegoLab

open PixelStreamValidator

variable {ε : Type} {zlib : Decompressor ε} {Stream : List UInt8 → List UInt8 → Prop}
  {policy : ImagePolicy} {validate_pixels : Bool} {state state' : PngState zlib}
  {crc32 : List UInt8 → UInt32}

/-! ### Bytes and chunks -/

section Scanning

variable {rest next : List UInt8} {chunk : PngChunk}

lemma scan_chunks_of_read (hlength : 12 ≤ rest.length)
    (hread : (read_chunk crc32 rest : Except (PngException ε) _) = .ok (chunk, next)) :
    scan_chunks crc32 zlib policy validate_pixels state rest =
      check_chunk policy validate_pixels state chunk >>= fun state =>
        if chunk.name = IEND then
          if chunk.content.length ≠ 0 ∨ next ≠ [] then .error (invalid_image "image_invalid")
          else .ok (state, true)
        else scan_chunks crc32 zlib policy validate_pixels state next := by
  rw [scan_chunks, dif_pos hlength]
  split
  · next hread' =>
    rw [hread] at hread'
    exact absurd hread' (by simp)
  · next hread' =>
    rw [hread] at hread'
    obtain ⟨rfl, rfl⟩ := Prod.mk.inj (Except.ok.inj hread')
    cases check_chunk policy validate_pixels state chunk with
    | error e => rfl
    | ok state => rfl

lemma length_bytes : (chunk.bytes crc32).length = chunk.name.length + chunk.content.length + 8 := by
  simp only [PngChunk.bytes, List.length_append, length_big_endian]
  omega

/-- The bytes of chunks in front of which the scan stands. -/
structure Scanned (crc32 : List UInt8 → UInt32) (policy : ImagePolicy) (validate_pixels : Bool)
    (state : PngState zlib) (rest : List UInt8) (state' : PngState zlib) (front : List PngChunk)
    (last : PngChunk) : Prop where
  bytes : rest = chunk_bytes crc32 (front ++ [last])
  framed : ∀ chunk ∈ front ++ [last], chunk.Framed
  critical : ∀ chunk ∈ front ++ [last], chunk.Critical → chunk.name ∈ CRITICAL_NAMES
  inner : IEND ∉ chunk_names front
  ending : last.name = IEND ∧ last.content = []
  checked : (front ++ [last]).foldlM (check_chunk policy validate_pixels) state = .ok state'

/-- A scan that sees the end has read chunks up to the end of the bytes. -/
lemma scanned_of_scan_chunks
    (h : scan_chunks crc32 zlib policy validate_pixels state rest = .ok (state', true)) :
    ∃ front last, Scanned crc32 policy validate_pixels state rest state' front last := by
  induction hn : rest.length using Nat.strong_induction_on generalizing rest state with
  | _ n ih =>
    subst hn
    by_cases hlength : 12 ≤ rest.length
    · rcases hread : (read_chunk crc32 rest : Except (PngException ε) _) with e | ⟨chunk, next⟩
      · rw [scan_chunks, dif_pos hlength] at h
        split at h
        · exact absurd h (by simp)
        · next hread' =>
          rw [hread] at hread'
          exact absurd hread' (by simp)
      · rw [scan_chunks_of_read hlength hread] at h
        obtain ⟨middle, hchunk, h⟩ := bind_eq_ok.mp h
        obtain ⟨hbytes, hframed, hcritical⟩ := of_read_chunk hread
        by_cases hname : chunk.name = IEND
        · rw [if_pos hname] at h
          split_ifs at h with hend
          obtain ⟨hcontent, hnext⟩ := not_or.mp hend
          rw [not_not] at hcontent hnext
          obtain rfl := (Prod.mk.inj (Except.ok.inj h)).1
          refine ⟨[], chunk, ?_, ?_, ?_, List.not_mem_nil,
            ⟨hname, List.eq_nil_of_length_eq_zero hcontent⟩, ?_⟩
          · rw [hbytes, hnext]
            simp [chunk_bytes]
          · simpa using hframed
          · simpa using hcritical
          · simp [hchunk]
        · rw [if_neg hname] at h
          obtain ⟨front, last, hscanned⟩ := ih _ (length_of_read_chunk hlength hread) h rfl
          refine ⟨chunk :: front, last, ?_, ?_, ?_, ?_, hscanned.ending, ?_⟩
          · rw [hbytes, hscanned.bytes]
            rfl
          · rw [List.cons_append, List.forall_mem_cons]
            exact ⟨hframed, hscanned.framed⟩
          · rw [List.cons_append, List.forall_mem_cons]
            exact ⟨hcritical, hscanned.critical⟩
          · intro hmem
            rcases List.mem_cons.mp hmem with heq | hfront
            · exact hname heq.symm
            · exact hscanned.inner hfront
          · rw [List.cons_append, List.foldlM_cons, hchunk]
            exact hscanned.checked
    · rw [scan_chunks, dif_neg hlength] at h
      exact absurd (Prod.mk.inj (Except.ok.inj h)).2 Bool.false_ne_true

/-- A list of chunks is read back from its bytes. -/
lemma scan_chunks_of_scanned {front : List PngChunk} {last : PngChunk}
    (h : Scanned crc32 policy validate_pixels state rest state' front last) :
    scan_chunks crc32 zlib policy validate_pixels state rest = .ok (state', true) := by
  induction front generalizing rest state with
  | nil =>
    have hchecked := h.checked
    simp only [List.nil_append, List.foldlM_cons, List.foldlM_nil, bind_pure] at hchecked
    have hframed := h.framed last (by simp)
    have hread := @read_chunk_bytes ε crc32 [] last hframed (h.critical last (by simp))
    have hrest : rest = last.bytes crc32 ++ [] := by
      rw [h.bytes]
      simp [chunk_bytes]
    have hlength : 12 ≤ rest.length := by
      rw [hrest, List.length_append, length_bytes, hframed.length_name]
      omega
    rw [← hrest] at hread
    rw [scan_chunks_of_read hlength hread, hchecked]
    change (if last.name = IEND then _ else _) = _
    rw [if_pos h.ending.1, if_neg (by simp [h.ending.2])]
  | cons chunk front ih =>
    have hchecked := h.checked
    rw [List.cons_append, List.foldlM_cons] at hchecked
    obtain ⟨middle, hchunk, hchecked⟩ := bind_eq_ok.mp hchecked
    have hframed := h.framed chunk (by simp)
    have hread := @read_chunk_bytes ε crc32 (chunk_bytes crc32 (front ++ [last])) chunk hframed
      (h.critical chunk (by simp))
    have hrest : rest = chunk.bytes crc32 ++ chunk_bytes crc32 (front ++ [last]) := h.bytes
    have hlength : 12 ≤ rest.length := by
      rw [hrest, List.length_append, length_bytes, hframed.length_name]
      omega
    have hname : chunk.name ≠ IEND := fun hname =>
      h.inner (List.mem_cons.mpr (Or.inl hname.symm))
    rw [← hrest] at hread
    rw [scan_chunks_of_read hlength hread, hchunk]
    change (if chunk.name = IEND then _ else _) = _
    rw [if_neg hname]
    exact ih ⟨rfl, fun other hother => h.framed other (List.mem_cons_of_mem _ hother),
      fun other hother => h.critical other (List.mem_cons_of_mem _ hother),
      fun hmem => h.inner (List.mem_cons_of_mem _ hmem), h.ending, hchecked⟩

end Scanning

/-! ### The grammar and the order of the scan -/

section Order

variable {chunks before after : List PngChunk} {chunk : PngChunk} {name : List UInt8}

lemma mem_chunk_names : name ∈ chunk_names chunks ↔ ∃ chunk ∈ chunks, chunk.name = name :=
  List.mem_map

lemma AllAllowed.of_mem (h : AllAllowed Stream policy chunks) (hchunk : chunk ∈ chunks) :
    ∃ before, Allowed Stream policy before chunk := by
  obtain ⟨before, after, hsplit⟩ := List.append_of_mem hchunk
  exact ⟨before, h before chunk after hsplit⟩

/-- What is not among the names before it occurs once at most. -/
lemma count_le_one (h : ∀ before chunk after, chunks = before ++ chunk :: after →
    chunk.name = name → name ∉ chunk_names before) : (chunk_names chunks).count name ≤ 1 := by
  induction chunks using List.reverseRecOn with
  | nil => exact Nat.zero_le _
  | append_singleton past last ih =>
    rw [chunk_names_append, List.count_append]
    by_cases hname : last.name = name
    · rw [List.count_eq_zero.mpr (h past last [] rfl hname), Nat.zero_add]
      exact (List.count_le_length).trans (by simp [chunk_names])
    · have hlast : (chunk_names [last]).count name = 0 := by
        rw [List.count_eq_zero]
        simpa [chunk_names] using Ne.symm hname
      rw [hlast, Nat.add_zero]
      apply ih
      rintro before chunk after rfl
      exact h before chunk (after ++ [last]) (by simp)

lemma not_mem_of_count_le_one (h : (chunk_names (before ++ chunk :: after)).count chunk.name ≤ 1) :
    chunk.name ∉ chunk_names before := by
  intro hmem
  have hbefore := List.count_pos_iff.mpr hmem
  have hsplit : chunk_names (before ++ chunk :: after)
      = chunk_names before ++ chunk.name :: chunk_names after := by
    simp [chunk_names]
  rw [hsplit, List.count_append, List.count_cons_self] at h
  omega

/-- The pixel data of allowed chunks is one run. -/
lemma exists_run (h : ∀ before chunk after, chunks = before ++ chunk :: after →
    chunk.name = IDAT → ¬ Finished before) (hpixels : IDAT ∈ chunk_names chunks) :
    ∃ before pixels after, chunks = before ++ pixels ++ after ∧ pixels ≠ [] ∧
      (∀ chunk ∈ pixels, chunk.name = IDAT) ∧ IDAT ∉ chunk_names before ∧
      IDAT ∉ chunk_names after := by
  induction chunks using List.reverseRecOn with
  | nil => exact absurd hpixels List.not_mem_nil
  | append_singleton past last ih =>
    by_cases hpast : IDAT ∈ chunk_names past
    · obtain ⟨before, pixels, after, rfl, hnonempty, hall, hbefore, hafter⟩ := ih
        (by
          rintro before chunk after rfl
          exact h before chunk (after ++ [last]) (by simp)) hpast
      by_cases hname : last.name = IDAT
      · have hnil : after = [] := by
          cases after with
          | nil => rfl
          | cons other rest =>
            have hfinished : Finished (before ++ pixels ++ other :: rest) := by
              refine ⟨before ++ pixels, other, rest, rfl, ?_, ?_⟩
              · exact fun hother => hafter (mem_chunk_names.mpr ⟨other, List.mem_cons_self, hother⟩)
              · obtain ⟨first, pixels', rfl⟩ := List.exists_cons_of_ne_nil hnonempty
                exact mem_chunk_names.mpr ⟨first, by simp, hall first List.mem_cons_self⟩
            exact absurd hfinished (h _ last [] rfl hname)
        subst hnil
        refine ⟨before, pixels ++ [last], [], by simp, by simp, ?_, hbefore, List.not_mem_nil⟩
        intro chunk hchunk
        rcases List.mem_append.mp hchunk with hchunk | hchunk
        · exact hall chunk hchunk
        · rw [List.mem_singleton.mp hchunk]
          exact hname
      · refine ⟨before, pixels, after ++ [last], by simp, hnonempty, hall, hbefore, ?_⟩
        rw [mem_chunk_names_snoc]
        rintro (hmem | heq)
        · exact hafter hmem
        · exact hname heq.symm
    · rw [mem_chunk_names_snoc] at hpixels
      have hname : last.name = IDAT := (hpixels.resolve_left hpast).symm
      exact ⟨past, [last], [], by simp, by simp, by simpa using hname, hpast, List.not_mem_nil⟩

/-- In a run of pixel data nothing else stands between two of its chunks. -/
lemma not_finished_of_run {pixels front rest : List PngChunk}
    (hsplit : front ++ pixels ++ rest = before ++ chunk :: after)
    (hpixels : ∀ chunk ∈ pixels, chunk.name = IDAT) (hfront : IDAT ∉ chunk_names front)
    (hrest : IDAT ∉ chunk_names rest) (hname : chunk.name = IDAT) : ¬ Finished before := by
  rintro ⟨earlier, other, later, rfl, hother, hearlier⟩
  rw [List.append_assoc earlier, List.cons_append] at hsplit
  rcases List.append_eq_append_iff.mp hsplit with ⟨middle, -, heq⟩ | ⟨middle, heq, hlater⟩
  · -- The other chunk stands behind the run, and so does the chunk of pixel data.
    exact hrest (mem_chunk_names.mpr ⟨chunk, by rw [heq]; simp, hname⟩)
  · cases middle with
    | nil => exact hrest (mem_chunk_names.mpr ⟨chunk, by rw [← List.nil_append rest, ← hlater]; simp, hname⟩)
    | cons first middle =>
      obtain rfl := (List.cons.inj hlater).1
      rcases List.append_eq_append_iff.mp heq with ⟨between, -, hin⟩ | ⟨between, hin, -⟩
      · exact hother (hpixels other (by rw [hin]; simp))
      · rw [hin, chunk_names_append] at hfront
        exact hfront (List.mem_append_left _ hearlier)

end Order

/-! ### The grammar -/

lemma lt_enough_rounds (validator : PixelStreamValidator zlib) :
    validator.expected_bytes < OUTPUT_BYTES * enough_rounds validator := by
  unfold enough_rounds
  exact Nat.lt_mul_div_succ _ OUTPUT_BYTES_pos

/-- The validator behind all pixel data finishes when the data is the stream of the pixels. -/
lemma finish_iff_stream (h : zlib.Lawful Stream) {header : PngChunk} {rest : List PngChunk} :
    (∃ fed : PixelStreamValidator zlib, FedTo (header :: rest) fed ∧ fed.finish = .ok ()) ↔
      ∃ pixels, Stream (pixel_data (header :: rest)).flatten pixels ∧
        pixels.length = header_bytes header.content := by
  have haccepts := accepts_iff h (pixel_data (header :: rest)) (Position.create h _ _ _ _)
    (settled_create h _ _ _ _) (lt_enough_rounds (first_stream zlib header))
  rw [List.nil_append] at haccepts
  refine Iff.trans ?_ haccepts
  constructor
  · rintro ⟨fed, ⟨header', rest', hsplit, hfed⟩, hfinish⟩
    obtain rfl := (List.cons.inj hsplit).1
    exact ⟨fed, hfed, hfinish⟩
  · rintro ⟨fed, hfed, hfinish⟩
    exact ⟨fed, ⟨header, rest, rfl, hfed⟩, hfinish⟩

section Grammar

variable {front : List PngChunk} {last : PngChunk}

/-- Chunks that pass are in the grammar. -/
lemma grammar_of_checked (h : zlib.Lawful Stream)
    (hframed : ∀ chunk ∈ front ++ [last], chunk.Framed)
    (hcritical : ∀ chunk ∈ front ++ [last], chunk.Critical → chunk.name ∈ CRITICAL_NAMES)
    (hinner : IEND ∉ chunk_names front) (hending : last.name = IEND ∧ last.content = [])
    (hallowed : AllAllowed Stream policy (front ++ [last]))
    (hprogress : Progress validate_pixels (front ++ [last]) state)
    (hseen : IDAT ∈ state.seen) (hfinish : finish_pixels zlib state = .ok ())
    (hcolor : ¬ ((gAMA ∈ state.seen ∨ cHRM ∈ state.seen) ∧
      ¬ (iCCP ∈ state.seen ∨ sRGB ∈ state.seen))) :
    Grammar Stream policy validate_pixels (front ++ [last]) := by
  simp only [hprogress.seen] at hseen hcolor
  obtain ⟨header, rest, hsplit⟩ := List.exists_cons_of_ne_nil
    (show front ++ [last] ≠ [] by simp)
  constructor
  · exact hframed
  · exact hcritical
  · have hfirst := (hallowed [] header rest hsplit).header rfl
    refine ⟨header, rest, hsplit, hfirst.1, fun hmem => ?_, hfirst.2, fun hvalidate => ?_⟩
    · obtain ⟨chunk, hchunk, hname⟩ := mem_chunk_names.mp hmem
      obtain ⟨before, after, rfl⟩ := List.append_of_mem hchunk
      exact (hallowed (header :: before) chunk after hsplit).only (by simp) hname
    · obtain ⟨validator, hvalidator, hfed⟩ := hprogress.fed (by simp) hvalidate
      rw [finish_pixels, hvalidator] at hfinish
      change validator.finish.mapError PngException.pixels = .ok () at hfinish
      rw [hsplit] at hfed ⊢
      refine (finish_iff_stream h).mp ⟨validator, hfed, ?_⟩
      cases hend : validator.finish with
      | error e =>
        rw [hend] at hfinish
        exact absurd hfinish (by simp [Except.mapError])
      | ok u => rfl
  · exact ⟨front, last, rfl, hending.1, hending.2, hinner⟩
  · apply exists_run _ hseen
    intro before chunk after heq
    exact (hallowed before chunk after heq).together
  · intro name hname
    apply count_le_one
    rintro before chunk after heq rfl
    exact ((hallowed before chunk after heq).declared hname).1
  · intro before chunk after heq hname
    exact ((hallowed before chunk after heq).declared hname).2
  · intro chunk hchunk
    obtain ⟨before, hbefore⟩ := hallowed.of_mem hchunk
    exact hbefore.wellFormed
  · intro name hname hmem
    obtain ⟨chunk, hchunk, rfl⟩ := mem_chunk_names.mp hmem
    obtain ⟨before, hbefore⟩ := hallowed.of_mem hchunk
    exact hbefore.supported hname
  · intro hneeds
    by_contra hmissing
    exact hcolor ⟨hneeds, hmissing⟩

/-- The chunks of the grammar are allowed. -/
lemma Grammar.allAllowed {chunks : List PngChunk}
    (h : Grammar Stream policy validate_pixels chunks) : AllAllowed Stream policy chunks := by
  intro before chunk after hsplit
  have hchunk : chunk ∈ chunks := by
    rw [hsplit]
    simp
  obtain ⟨header, rest, hheader, hname, hrest, hvalid, -⟩ := h.header
  constructor
  · rintro rfl
    obtain ⟨rfl, -⟩ := List.cons.inj (hheader.symm.trans hsplit)
    exact ⟨hname, hvalid⟩
  · intro hbefore heq
    obtain ⟨first, before', rfl⟩ := List.exists_cons_of_ne_nil hbefore
    obtain ⟨-, rfl⟩ := List.cons.inj (hheader.symm.trans hsplit)
    exact hrest (mem_chunk_names.mpr ⟨chunk, by simp, heq⟩)
  · intro hdeclared
    refine ⟨?_, h.early before chunk after hsplit hdeclared⟩
    have honce := h.once chunk.name hdeclared
    rw [hsplit] at honce
    exact not_mem_of_count_le_one honce
  · exact h.wellFormed chunk hchunk
  · obtain ⟨front, pixels, later, hrun, -, hpixels, hfront, hlater⟩ := h.pixels
    exact not_finished_of_run (hrun.symm.trans hsplit) hpixels hfront hlater
  · intro hunsupported
    exact h.supported chunk.name hunsupported (mem_chunk_names.mpr ⟨chunk, hchunk, rfl⟩)

/-- The chunks of the grammar pass, and the stream of their pixels finishes. -/
lemma Grammar.checked (hlawful : zlib.Lawful Stream) {chunks : List PngChunk}
    (h : Grammar Stream policy validate_pixels chunks) :
    ∃ state : PngState zlib, check_chunks policy validate_pixels chunks = .ok state ∧
      finish_pixels zlib state = .ok () := by
  obtain ⟨header, rest, rfl, -, -, -, hpixels⟩ := h.header
  have hfinish (hvalidate : validate_pixels = true) :
      ∃ fed : PixelStreamValidator zlib, FedTo (header :: rest) fed ∧ fed.finish = .ok () :=
    (finish_iff_stream hlawful).mpr (hpixels hvalidate)
  obtain ⟨state, hstate⟩ := check_chunks_of_allowed hlawful h.allAllowed fun _ hvalidate => by
    obtain ⟨fed, hfed, -⟩ := hfinish hvalidate
    exact ⟨fed, hfed⟩
  refine ⟨state, hstate, ?_⟩
  have hprogress := (of_check_chunks hlawful hstate).2
  cases hvalidate : validate_pixels with
  | false => rw [finish_pixels, hprogress.idle (Or.inr hvalidate)]
  | true =>
    obtain ⟨fed, ⟨header', rest', hsplit, hfed⟩, hend⟩ := hfinish hvalidate
    obtain ⟨validator, hvalidator, header'', rest'', hsplit', hfed'⟩ :=
      hprogress.fed (by simp) hvalidate
    obtain rfl := (List.cons.inj hsplit).1
    obtain rfl := (List.cons.inj hsplit').1
    rw [hfed] at hfed'
    obtain ⟨-, rfl⟩ := Prod.mk.inj (Option.some.inj hfed')
    rw [finish_pixels, hvalidator]
    change fed.finish.mapError PngException.pixels = .ok ()
    rw [hend]
    rfl

end Grammar

/-! ### The header as a whole -/

lemma png_header_eq_ok {data : List UInt8} {header : SourceHeader} :
    png_header crc32 zlib policy validate_pixels data = .ok header ↔
      ∃ state : PngState zlib,
        scan_chunks crc32 zlib policy validate_pixels {} (data.drop 8) = .ok (state, true) ∧
        state.first = false ∧ IDAT ∈ state.seen ∧ finish_pixels zlib state = .ok () ∧
        ¬ ((gAMA ∈ state.seen ∨ cHRM ∈ state.seen) ∧
          ¬ (iCCP ∈ state.seen ∨ sRGB ∈ state.seen)) ∧
        SourceHeader.mk .PNG state.width state.height (color_mode state.color_type) state.seen false
          = header := by
  unfold png_header
  simp only [bind_eq_ok, raise_if_eq_ok, pure_eq_ok, exists_const, not_or, Bool.not_eq_true,
    Bool.not_eq_false, not_not]
  constructor
  · rintro ⟨⟨state, saw_end⟩, hscan, ⟨hfirst, hend, hseen⟩, _, hfinish, hcolor, hheader⟩
    dsimp only at hend
    subst hend
    exact ⟨state, hscan, hfirst, hseen, hfinish, hcolor, hheader⟩
  · rintro ⟨state, hscan, hfirst, hseen, hfinish, hcolor, hheader⟩
    exact ⟨⟨state, true⟩, hscan, ⟨hfirst, rfl, hseen⟩, (), hfinish, hcolor, hheader⟩

lemma append_drop_signature {data : List UInt8} (h : PNG_SIGNATURE <+: data) :
    data = PNG_SIGNATURE ++ data.drop 8 := by
  obtain ⟨rest, rfl⟩ := h
  rfl

/-- A header is found exactly in the chunks of the grammar. -/
theorem png_header_iff (h : zlib.Lawful Stream) {data : List UInt8}
    (hsignature : PNG_SIGNATURE <+: data) :
    (∃ header, png_header crc32 zlib policy validate_pixels data = .ok header) ↔
      ∃ chunks, data = PNG_SIGNATURE ++ chunk_bytes crc32 chunks ∧
        Grammar Stream policy validate_pixels chunks := by
  constructor
  · rintro ⟨header, hok⟩
    obtain ⟨state, hscan, -, hseen, hfinish, hcolor, -⟩ := png_header_eq_ok.mp hok
    obtain ⟨front, last, hscanned⟩ := scanned_of_scan_chunks hscan
    obtain ⟨hallowed, hprogress⟩ := of_check_chunks h hscanned.checked
    refine ⟨front ++ [last], ?_, grammar_of_checked h hscanned.framed hscanned.critical
      hscanned.inner hscanned.ending hallowed hprogress hseen hfinish hcolor⟩
    rw [← hscanned.bytes]
    exact append_drop_signature hsignature
  · rintro ⟨chunks, hdata, hgrammar⟩
    obtain ⟨state, hstate, hfinish⟩ := hgrammar.checked h
    have hprogress := (of_check_chunks h hstate).2
    obtain ⟨front, last, rfl, hname, hcontent, hinner⟩ := hgrammar.last
    have hscanned : Scanned crc32 policy validate_pixels {} (data.drop 8) state front last :=
      ⟨by rw [hdata]; rfl, hgrammar.framed, hgrammar.critical, hinner, ⟨hname, hcontent⟩, hstate⟩
    refine ⟨_, png_header_eq_ok.mpr ⟨state, scan_chunks_of_scanned hscanned, ?_, ?_, hfinish, ?_,
      rfl⟩⟩
    · rw [← Bool.not_eq_true, hprogress.first]
      simp
    · obtain ⟨before, pixels, after, hrun, hnonempty, hpixels, -⟩ := hgrammar.pixels
      obtain ⟨first, pixels', rfl⟩ := List.exists_cons_of_ne_nil hnonempty
      rw [hprogress.seen, hrun, mem_chunk_names]
      exact ⟨first, by simp, hpixels first List.mem_cons_self⟩
    · simp only [hprogress.seen]
      rintro ⟨hneeds, hmissing⟩
      exact hmissing (hgrammar.declared hneeds)

/-! ### The end of the scan -/

/-- The computation ends within the rounds that its decompressions are given. -/
def Ends {α : Type} (x : Except (PngException ε) α) : Prop :=
  x ≠ .error .unfinished

section Ends

variable {α β : Type} {x : Except (PngException ε) α} {f : α → Except (PngException ε) β}

lemma Ends.ok (a : α) : Ends (.ok a : Except (PngException ε) α) := by
  simp [Ends]

lemma Ends.bind (hx : Ends x) (hf : ∀ a, x = .ok a → Ends (f a)) : Ends (x >>= f) := by
  cases x with
  | error e => exact fun h => hx (congrArg Except.error (Except.error.inj h))
  | ok a => exact hf a rfl

lemma Ends.raise_if {condition : Prop} [Decidable condition] (code : String) :
    Ends (raise_if condition (invalid_image code) : Except (PngException ε) Unit) := by
  unfold StegoLab.raise_if
  split_ifs
  · simp [Ends, invalid_image]
  · exact .ok _

end Ends

variable {past : List PngChunk} {chunk : PngChunk}

lemma ends_check_header :
    Ends (check_header policy validate_pixels state chunk) := by
  unfold check_header
  split_ifs
  · refine (Ends.raise_if _).bind fun _ _ => ?_
    refine Ends.bind ?_ fun _ _ => (Ends.raise_if _).bind fun _ _ => (Ends.raise_if _).bind
      fun _ _ => .ok _
    unfold ImagePolicy.check_dimensions StegoLab.raise_if
    split_ifs
    · simp [Ends, Except.mapError]
    · simp [Ends, Except.mapError]
  · exact (Ends.raise_if _).bind fun _ _ => .ok _

/-- What has been fed so far leaves a validator whose next call ends. -/
lemma ends_feed_pixels (h : zlib.Lawful Stream) {validator : PixelStreamValidator zlib}
    (hfed : FedTo past validator) (content : List UInt8) :
    Ends (feed_pixels validator content) := by
  obtain ⟨header, rest, rfl, hfed⟩ := hfed
  obtain ⟨outcome, fed, hchunks, hstate⟩ := feed_chunks_fed h (pixel_data (header :: rest))
    (Position.create h _ _ _ _) (settled_create h _ _ _ _)
    (lt_enough_rounds (first_stream zlib header))
  obtain ⟨rfl, rfl⟩ := Prod.mk.inj (Option.some.inj (hchunks.symm.trans hfed))
  obtain ⟨⟨whole, hposition⟩, -⟩ := hstate.returned rfl
  obtain ⟨outcome, next, hnext, -⟩ := feed_fed h content hposition (lt_enough_rounds _)
  unfold feed_pixels
  rw [hnext]
  cases outcome with
  | error e => simp [Ends]
  | ok u => exact .ok _

lemma ends_check_pixels
    (hstream : ∀ validator, state.pixel_stream = some validator →
      ∀ content, Ends (feed_pixels validator content)) : Ends (check_pixels state chunk) := by
  unfold check_pixels
  split_ifs
  · refine (Ends.raise_if _).bind fun _ _ => ?_
    split
    · exact .ok _
    · next validator hvalidator =>
      exact (hstream validator hvalidator _).bind fun _ _ => .ok _
  · exact .ok _
  · exact .ok _

lemma ends_check_profile_chunk (content : List UInt8) : Ends (check_profile_chunk zlib content) := by
  unfold check_profile_chunk check_profile
  refine (Ends.raise_if _).bind fun _ _ => ?_
  split
  · simp [Ends, invalid_image]
  · exact Ends.raise_if _

lemma ends_check_color : Ends (check_color state chunk) := by
  unfold check_color
  split_ifs
  · refine (Ends.raise_if _).bind fun _ _ => (Ends.raise_if _).bind fun _ _ =>
      (Ends.raise_if _).bind fun _ _ => (Ends.raise_if _).bind fun _ _ => ?_
    exact ends_check_profile_chunk _
  · exact (Ends.raise_if _).bind fun _ _ => (Ends.raise_if _).bind fun _ _ =>
      (Ends.raise_if _).bind fun _ _ => (Ends.raise_if _).bind fun _ _ => .ok _
  · exact .ok _

lemma ends_check_chunk (h : zlib.Lawful Stream) (hprogress : Progress validate_pixels past state) :
    Ends (check_chunk policy validate_pixels state chunk) := by
  unfold check_chunk
  refine ends_check_header.bind fun opened hopened => ?_
  have hpixels : Ends (check_pixels opened chunk) := by
    cases hfirst : state.first with
    | true =>
      obtain ⟨⟨hname, -⟩, -⟩ := (check_header_first hfirst).mp hopened
      have hother : chunk.name ≠ IDAT := by
        rw [hname]
        decide
      rw [(check_pixels_other hother).mpr rfl]
      exact .ok _
    | false =>
      obtain ⟨-, rfl⟩ := (check_header_later hfirst).mp hopened
      have hpast : past ≠ [] := by
        rw [ne_eq, ← hprogress.first, hfirst]
        exact Bool.false_ne_true
      refine ends_check_pixels fun validator hvalidator => ?_
      cases hvalidate : validate_pixels with
      | false =>
        rw [hprogress.idle (Or.inr hvalidate)] at hvalidator
        exact absurd hvalidator (by simp)
      | true =>
        obtain ⟨fed, hfed, hpixels⟩ := hprogress.fed hpast hvalidate
        rw [hfed] at hvalidator
        obtain rfl := Option.some.inj hvalidator
        exact ends_feed_pixels h hpixels
  refine Ends.bind (Ends.raise_if _) fun _ _ => hpixels.bind fun _ _ => ?_
  refine Ends.bind ?_ fun _ _ => ends_check_color.bind fun _ _ => .ok _
  exact (Ends.raise_if _).bind fun _ _ => Ends.raise_if _

lemma ends_read_chunk {rest : List UInt8} :
    Ends (read_chunk crc32 rest : Except (PngException ε) (PngChunk × List UInt8)) := by
  unfold read_chunk
  exact (Ends.raise_if _).bind fun _ _ => (Ends.raise_if _).bind fun _ _ =>
    (Ends.raise_if _).bind fun _ _ => .ok _

lemma ends_scan_chunks (h : zlib.Lawful Stream) {rest : List UInt8}
    (hprogress : Progress validate_pixels past state) :
    Ends (scan_chunks crc32 zlib policy validate_pixels state rest) := by
  induction hn : rest.length using Nat.strong_induction_on generalizing rest state past with
  | _ n ih =>
    subst hn
    by_cases hlength : 12 ≤ rest.length
    · rcases hread : (read_chunk crc32 rest : Except (PngException ε) _) with e | ⟨chunk, next⟩
      · have hends := @ends_read_chunk ε crc32 rest
        rw [scan_chunks, dif_pos hlength]
        split
        · next hread' =>
          rw [hread'] at hends
          exact fun h => hends (congrArg Except.error (Except.error.inj h))
        · next hread' =>
          rw [hread] at hread'
          exact absurd hread' (by simp)
      · rw [scan_chunks_of_read hlength hread]
        refine (ends_check_chunk h hprogress).bind fun state' hstate' => ?_
        have hnext := (of_check_chunk h hprogress hstate').2
        split_ifs
        · simp [Ends, invalid_image]
        · exact .ok _
        · exact ih _ (length_of_read_chunk hlength hread) hnext rfl
    · rw [scan_chunks, dif_neg hlength]
      exact .ok _

lemma ends_png_header (h : zlib.Lawful Stream) (data : List UInt8) :
    Ends (png_header crc32 zlib policy validate_pixels data) := by
  unfold png_header
  refine (ends_scan_chunks h progress_empty).bind fun scanned _ => ?_
  refine (Ends.raise_if _).bind fun _ _ => Ends.bind ?_ fun _ _ => (Ends.raise_if _).bind
    fun _ _ => .ok _
  unfold finish_pixels
  split
  · exact .ok _
  · next validator _ =>
    cases validator.finish with
    | error e => simp [Ends, Except.mapError]
    | ok u => exact .ok _

/-- One bit of the checksum. -/
def crc_step (crc : UInt32) : UInt32 :=
  if crc &&& 1 = 1 then (crc >>> 1) ^^^ 0xedb88320 else crc >>> 1

/-- The checksum of PNG chunks. -/
def png_crc32 (bytes : List UInt8) : UInt32 :=
  bytes.foldl (fun crc byte => Nat.repeat crc_step 8 (crc ^^^ byte.toUInt32)) 0xffffffff
    ^^^ 0xffffffff

/-- A grey image of one pixel. -/
def BLACK_PIXEL_CHUNKS : List PngChunk :=
  [⟨IHDR, [0, 0, 0, 1, 0, 0, 0, 1, 8, 0, 0, 0, 0]⟩, ⟨IDAT, BLACK_PIXEL_STREAM⟩, ⟨IEND, []⟩]

lemma black_pixel_grammar :
    Grammar (fun z whole => z = BLACK_PIXEL_STREAM ∧ whole = BLACK_PIXEL) DATASET_SOURCE_POLICY true
      BLACK_PIXEL_CHUNKS := by
  have hplain : ∀ chunk ∈ BLACK_PIXEL_CHUNKS, chunk.name ∉ DECLARATIONS := by
    decide
  constructor
  · have hletters : ∀ name ∈ [IHDR, IDAT, IEND], ∀ value ∈ name, is_letter value = true := by
      simp [IHDR, IDAT, IEND, is_letter, is_capital]
    simp only [BLACK_PIXEL_CHUNKS, List.forall_mem_cons]
    refine ⟨⟨rfl, hletters IHDR ?_, rfl, ?_⟩, ⟨rfl, hletters IDAT ?_, rfl, ?_⟩,
      ⟨rfl, hletters IEND ?_, rfl, ?_⟩, List.forall_mem_nil _⟩ <;>
      decide
  · intro chunk hchunk _
    revert chunk
    decide
  · refine ⟨_, _, rfl, rfl, ?_, ⟨rfl, ?_, rfl, ?_, rfl, rfl, Or.inl rfl⟩, fun _ =>
      ⟨BLACK_PIXEL, ⟨rfl, rfl⟩, rfl⟩⟩ <;> decide
  · exact ⟨[⟨IHDR, _⟩, ⟨IDAT, _⟩], ⟨IEND, []⟩, rfl, rfl, rfl, by decide⟩
  · exact ⟨[⟨IHDR, _⟩], [⟨IDAT, _⟩], [⟨IEND, []⟩], rfl, by simp, by simp, by decide, by decide⟩
  · decide
  · intro before chunk after hsplit hdeclared
    exact absurd hdeclared (hplain chunk (by rw [hsplit]; simp))
  · intro chunk hchunk
    have hname := hplain chunk hchunk
    constructor
    · intro heq
      exact absurd (by rw [heq]; decide) hname
    · intro heq
      exact absurd (by rw [heq]; decide) hname
    · intro heq
      exact absurd (by rw [heq]; decide) hname
    · intro heq
      exact absurd (by rw [heq]; decide) hname
    · intro heq
      exact absurd (by rw [heq]; decide) hname
  · decide
  · decide

end StegoLab
