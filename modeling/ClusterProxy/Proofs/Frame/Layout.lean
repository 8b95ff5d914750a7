import ClusterProxy.Proofs.Frame.Tree

/-!
# The grammar of frames

`Frame.Layout most levels` holds for the octets of one frame whose arrays nest at most `levels` deep
and have at most `most` elements each. It speaks of octets only, and neither of a buffer nor of a
limit.

A byte string that is no longer than the limit is found as one frame exactly if it has such a
layout, where `most` is the limit divided by `Frame.minElementLength` (`Frame.exists_find_iff`). So
the limit bounds the number of elements besides the length. Since an element can have three octets,
the second bound does not follow from the first; it does for frames of three quarters of the limit
(`IsFrame.exists_find`).
-/

namespace ClusterProxy

namespace Frame

/-! ## Layouts -/

/-- The octets of one frame whose arrays nest at most `levels` deep and have at most `most` elements
each. The text of a line holds no line end; the body of a bulk is as long as its header declares,
and an array has as many elements. -/
inductive Layout (most : Nat) : (levels : Nat) → Bytes → Prop where
  | line {levels : Nat} {kind : Kind} {text : Bytes} :
      kind ∈ [.status, .error, .integer] → ¬ Bytes.crlf <:+: text →
      Layout most levels (Message.line kind text)
  | nullBulk {levels : Nat} {header : Bytes} :
      Header header none → Layout most levels (Kind.bulk.mark :: header)
  | bulk {levels : Nat} {header body : Bytes} :
      Header header (some body.length) →
      Layout most levels (Kind.bulk.mark :: header ++ body ++ Bytes.crlf)
  | nullArray {levels : Nat} {header : Bytes} :
      Header header none → Layout most (levels + 1) (Kind.array.mark :: header)
  | array {levels : Nat} {header : Bytes} {elements : List Bytes} :
      Header header (some elements.length) → elements.length ≤ most →
      (∀ element ∈ elements, Layout most levels element) →
      Layout most (levels + 1) (Kind.array.mark :: header ++ elements.flatten)

/-- Pieces of a certain length or more make up as much together. -/
theorem mul_length_le_length_flatten {least : Nat} {pieces : List Bytes}
    (each : ∀ piece ∈ pieces, least ≤ piece.length) :
    least * pieces.length ≤ pieces.flatten.length := by
  induction pieces with
  | nil => exact Nat.le_refl _
  | cons piece pieces ih =>
    obtain ⟨first, others⟩ := List.forall_mem_cons.1 each
    rw [List.flatten_cons, List.length_append, List.length_cons, Nat.mul_succ, Nat.add_comm]
    exact Nat.add_le_add first (ih others)

namespace Layout

variable {most levels : Nat} {bytes : Bytes}

/-- A layout with shorter arrays is one with longer arrays. -/
theorem mono {more : Nat} (few : most ≤ more) (layout : Layout most levels bytes) :
    Layout more levels bytes := by
  induction layout with
  | line kind noEnd => exact .line kind noEnd
  | nullBulk declares => exact .nullBulk declares
  | bulk declares => exact .bulk declares
  | nullArray declares => exact .nullArray declares
  | array declares count _ ih => exact .array declares (Nat.le_trans count few) ih

/-- The shortest frames are lines without text. -/
theorem three_le_length (layout : Layout most levels bytes) : 3 ≤ bytes.length := by
  cases layout with
  | line => simp [Message.line, Bytes.crlf]
  | nullBulk declares => exact Nat.succ_le_succ (Nat.le_of_lt declares.three_le_length)
  | bulk => simp [Bytes.crlf]; omega
  | nullArray declares => exact Nat.succ_le_succ (Nat.le_of_lt declares.three_le_length)
  | array declares =>
    have := declares.three_le_length
    simp
    omega

/-- An array in a frame has at most as many elements as the shortest ones fit in. -/
theorem of_length_le {few : Nat} (short : bytes.length ≤ 3 * few + 4)
    (layout : Layout most levels bytes) : Layout few levels bytes := by
  induction layout with
  | line kind noEnd => exact .line kind noEnd
  | nullBulk declares => exact .nullBulk declares
  | bulk declares => exact .bulk declares
  | nullArray declares => exact .nullArray declares
  | @array levels header elements declares _ each ih =>
    have room := declares.three_le_length
    have wide := mul_length_le_length_flatten fun element member =>
      (each element member).three_le_length
    simp only [List.cons_append, List.length_cons, List.length_append] at short
    refine .array declares (by omega) fun element member => ih element member ?_
    have := (List.sublist_flatten_of_mem member).length_le
    omega

end Layout

/-! ## What a reader takes -/

/-- What a reader completes, it takes from octets of a certain form. -/
def Takes (reader : Cursor → Verdict (Content × Cursor)) (form : Bytes → Prop) : Prop :=
  ∀ cursor content next, reader cursor = .complete (content, next) →
    ∃ used, form used ∧ cursor.rest = used ++ next.rest ∧ next.offset = cursor.offset + used.length

theorem takes_scanLine {most levels : Nat} {kind : Kind}
    (plain : kind ∈ [.status, .error, .integer]) :
    Takes (scanLine kind) fun used => Layout most levels (kind.mark :: used) := by
  intro cursor content next read
  unfold scanLine at read
  split at read
  · simp at read
  · next stop after ended =>
    simp only [Verdict.complete.injEq, Prod.mk.injEq] at read
    obtain ⟨_, rfl⟩ := read
    obtain ⟨text, noEnd, cut, rfl, far⟩ := text_of_findLineEnd ended
    refine ⟨text ++ Bytes.crlf, .line plain noEnd, cut, ?_⟩
    rw [far, List.length_append, Nat.add_assoc]
    rfl

/-- What a reader completes behind a length, it completes behind the header that declares it. -/
theorem header_of_andThen {cursor stop : Cursor} {content : Content}
    {next : Option Nat × Cursor → Verdict (Content × Cursor)}
    (read : (readLength cursor).andThen next = .complete (content, stop)) :
    ∃ header length body, Header header length ∧ cursor.rest = header ++ body.rest ∧
      body.offset = cursor.offset + header.length ∧
      next (length, body) = .complete (content, stop) := by
  cases declared : readLength cursor with
  | incomplete => simp [declared] at read
  | invalid why => simp [declared] at read
  | complete taken =>
    obtain ⟨length, body⟩ := taken
    obtain ⟨header, declares, cut, reached⟩ := header_of_readLength declared
    rw [declared, Verdict.andThen_complete] at read
    exact ⟨header, length, body, declares, cut, reached, read⟩

theorem takes_scanBulk {limit most levels : Nat} :
    Takes (scanBulk limit) fun used => Layout most levels (Kind.bulk.mark :: used) := by
  intro cursor content next read
  obtain ⟨header, length, body, declares, cut, reached, read⟩ := header_of_andThen read
  cases length with
  | none =>
    simp only [Verdict.complete.injEq, Prod.mk.injEq] at read
    obtain ⟨_, rfl⟩ := read
    exact ⟨header, .nullBulk declares, cut, reached⟩
  | some length =>
    dsimp only at read
    split at read
    · simp at read
    · split at read
      · simp at read
      · match behind : body.rest.drop length with
        | [] => simp [behind] at read
        | [_] => simp [behind] at read
        | first :: second :: rest =>
          by_cases ended : first = Bytes.cr ∧ second = Bytes.lf
          · obtain ⟨rfl, rfl⟩ := ended
            simp only [behind, and_self, if_true, Verdict.complete.injEq, Prod.mk.injEq] at read
            obtain ⟨_, rfl⟩ := read
            obtain ⟨text, rfl, whole⟩ := front_of_drop behind
            refine ⟨header ++ text ++ Bytes.crlf, .bulk declares, ?_, ?_⟩
            · rw [cut, whole]
              simp [Bytes.crlf]
            · rw [reached]
              simp [Bytes.crlf]
              omega
          · simp [behind, ended] at read

theorem pieces_of_scanItems {reader : Cursor → Verdict (Content × Cursor)} {form : Bytes → Prop}
    (inner : Takes reader form) {limit count : Nat} {seen items : List Item} {cursor next : Cursor}
    (read : scanItems reader limit count seen cursor = .complete (items, next)) :
    ∃ pieces : List Bytes, pieces.length = count ∧ (∀ piece ∈ pieces, form piece) ∧
      cursor.rest = pieces.flatten ++ next.rest ∧
      next.offset = cursor.offset + pieces.flatten.length := by
  induction count generalizing seen cursor with
  | zero =>
    simp only [scanItems, Verdict.complete.injEq, Prod.mk.injEq] at read
    obtain ⟨_, rfl⟩ := read
    exact ⟨[], rfl, by simp, rfl, rfl⟩
  | succ count ih =>
    unfold scanItems at read
    cases first : reader cursor with
    | incomplete => simp [first] at read
    | invalid why => simp [first] at read
    | complete taken =>
      obtain ⟨content, middle⟩ := taken
      rw [first] at read
      dsimp only at read
      split at read
      · simp at read
      · obtain ⟨piece, has, cut, reached⟩ := inner _ _ _ first
        obtain ⟨pieces, rfl, each, cutBehind, reachedBehind⟩ := ih read
        refine ⟨piece :: pieces, rfl, List.forall_mem_cons.2 ⟨has, each⟩, ?_, ?_⟩
        · rw [cut, cutBehind, List.flatten_cons, List.append_assoc]
        · rw [reachedBehind, reached, List.flatten_cons, List.length_append, Nat.add_assoc]

theorem takes_scanArray {reader : Cursor → Verdict (Content × Cursor)} {limit levels : Nat}
    (inner : Takes reader (Layout (limit / minElementLength) levels)) :
    Takes (scanArray reader limit) fun used =>
      Layout (limit / minElementLength) (levels + 1) (Kind.array.mark :: used) := by
  intro cursor content next read
  obtain ⟨header, count, body, declares, cut, reached, read⟩ := header_of_andThen read
  cases count with
  | none =>
    simp only [Verdict.complete.injEq, Prod.mk.injEq] at read
    obtain ⟨_, rfl⟩ := read
    exact ⟨header, .nullArray declares, cut, reached⟩
  | some count =>
    dsimp only at read
    split at read
    · simp at read
    · next few =>
      cases elements : scanItems reader limit count [] body with
      | incomplete => simp [elements] at read
      | invalid why => simp [elements] at read
      | complete found =>
        obtain ⟨items, stop⟩ := found
        simp only [elements, Verdict.andThen_complete, Verdict.complete.injEq,
          Prod.mk.injEq] at read
        obtain ⟨_, rfl⟩ := read
        obtain ⟨pieces, rfl, each, cutBehind, reachedBehind⟩ := pieces_of_scanItems inner elements
        refine ⟨header ++ pieces.flatten, .array declares (Nat.le_of_not_lt few) each, ?_, ?_⟩
        · rw [cut, cutBehind, List.append_assoc]
        · rw [reachedBehind, reached, List.length_append, Nat.add_assoc]

theorem takes_scanWith {array : Cursor → Verdict (Content × Cursor)} {limit most levels : Nat}
    (inner : Takes array fun used => Layout most levels (Kind.array.mark :: used)) :
    Takes (scanWith array limit) (Layout most levels) := by
  rintro ⟨offset, rest⟩ content next read
  cases rest with
  | nil => simp [scanWith] at read
  | cons mark rest =>
    cases announced : Kind.ofMark? mark with
    | none => simp [scanWith, announced] at read
    | some kind =>
      obtain rfl : kind.mark = mark := by simpa using List.find?_some announced
      have behind {reader : Cursor → Verdict (Content × Cursor)}
          (takes : Takes reader fun used => Layout most levels (kind.mark :: used))
          (read : reader ⟨offset + 1, rest⟩ = .complete (content, next)) :
          ∃ used, Layout most levels used ∧ kind.mark :: rest = used ++ next.rest ∧
            next.offset = offset + used.length := by
        obtain ⟨used, layout, cut, reached⟩ := takes _ _ _ read
        refine ⟨kind.mark :: used, layout, congrArg (kind.mark :: ·) cut, ?_⟩
        rw [reached, List.length_cons]
        dsimp only
        omega
      simp only [scanWith, announced] at read
      cases kind with
      | array => exact behind inner read
      | bulk => exact behind takes_scanBulk read
      | status => exact behind (takes_scanLine (by decide)) read
      | error => exact behind (takes_scanLine (by decide)) read
      | integer => exact behind (takes_scanLine (by decide)) read

/-- What a scan takes is laid out as a frame. -/
theorem takes_scan (limit levels : Nat) :
    Takes (scan limit levels) (Layout (limit / minElementLength) levels) := by
  induction levels with
  | zero => exact takes_scanWith fun _ _ _ read => by simp at read
  | succ levels ih => exact takes_scanWith (takes_scanArray ih)

/-! ## Layouts and trees -/

/-- Octets that are laid out as a frame are those of a tree. -/
theorem Layout.exists_tree {most levels : Nat} {bytes : Bytes} (layout : Layout most levels bytes) :
    ∃ tree : Tree, tree.bytes = bytes ∧ tree.depth ≤ levels ∧
      ∀ count ∈ tree.counts, count ≤ most := by
  induction layout with
  | line plain noEnd =>
    exact ⟨.line _ _ plain noEnd, rfl, by simp [Tree.depth], by simp [Tree.counts]⟩
  | nullBulk declares =>
    exact ⟨.nullBulk _ declares, rfl, by simp [Tree.depth], by simp [Tree.counts]⟩
  | bulk declares =>
    exact ⟨.bulk _ _ declares, rfl, by simp [Tree.depth], by simp [Tree.counts]⟩
  | nullArray declares =>
    exact ⟨.nullArray _ declares, rfl, by simp [Tree.depth], by simp [Tree.counts]⟩
  | @array levels header elements declares few _ ih =>
    choose trees octets shallow narrow using fun i : Fin elements.length =>
      ih elements[i] (List.getElem_mem i.isLt)
    refine ⟨.array header _ trees declares, ?_, Tree.depth_array_le_iff.2 shallow, ?_⟩
    · simp [Tree.bytes, octets]
    · intro count member
      rcases Tree.mem_counts_array.1 member with rfl | ⟨i, member⟩
      · exact few
      · exact narrow i count member

/-- A scan takes every frame that is laid out in this way and ends within the limit. -/
theorem Layout.scan_eq_complete {limit levels : Nat} {bytes : Bytes}
    (layout : Layout (limit / minElementLength) levels bytes) (fits : bytes.length ≤ limit)
    (more : Bytes) :
    ∃ content, scan limit levels ⟨0, bytes ++ more⟩ =
      .complete (content, ⟨bytes.length, more⟩) := by
  obtain ⟨tree, rfl, shallow, few⟩ := layout.exists_tree
  have read := tree.completes shallow few 0 more (by omega)
  rw [Nat.zero_add] at read
  exact ⟨_, read⟩

/-! ## Layouts and frames -/

/-- A byte string is found as one frame exactly if it is laid out as one, is no longer than the
limit and its arrays have no more elements than the limit allows for. -/
theorem exists_find_iff {limit : Nat} {bytes : Bytes} :
    (∃ frame, find limit bytes = .complete frame ∧ frame.length = bytes.length) ↔
      Layout (limit / minElementLength) nestingLimit bytes ∧ bytes.length ≤ limit := by
  constructor
  · rintro ⟨frame, found, whole⟩
    obtain ⟨rest, scanned, fits⟩ := find_eq_complete_iff.1 found
    obtain ⟨used, layout, cut, reached⟩ := takes_scan _ _ _ _ _ scanned
    dsimp only at cut reached
    -- A frame that is as long as the buffer leaves nothing behind it.
    have nothing : rest = [] := by
      have size := congrArg List.length cut
      rw [List.length_append] at size
      exact List.eq_nil_of_length_eq_zero (by omega)
    rw [cut, nothing, List.append_nil]
    refine ⟨layout, ?_⟩
    omega
  · rintro ⟨layout, fits⟩
    obtain ⟨content, scanned⟩ := layout.scan_eq_complete fits []
    rw [List.append_nil] at scanned
    exact ⟨⟨content, bytes.length⟩, find_eq_complete_iff.2 ⟨[], scanned, fits⟩, rfl⟩

end Frame

/-- The frames are the byte strings that are laid out as one, with arrays of any length. -/
theorem isFrame_iff_layout {bytes : Bytes} :
    IsFrame bytes ↔ ∃ most, Frame.Layout most Frame.nestingLimit bytes := by
  constructor
  · rintro ⟨frame, least, whole, finds⟩
    exact ⟨_, (Frame.exists_find_iff.1 ⟨frame, finds least (Nat.le_refl _), whole⟩).1⟩
  · rintro ⟨most, layout⟩
    -- The limit has to be large enough for the length and for the arrays.
    have enough : most ≤ (bytes.length + 4 * most) / Frame.minElementLength := by
      unfold Frame.minElementLength
      omega
    obtain ⟨frame, found, whole⟩ :=
      Frame.exists_find_iff.2 ⟨layout.mono enough, Nat.le_add_right _ _⟩
    exact isFrame_of_find found whole

/-- A frame that needs three quarters of the limit is found, whatever it holds. -/
theorem IsFrame.exists_find {limit : Nat} {bytes : Bytes} (is : IsFrame bytes)
    (short : 4 * bytes.length ≤ 3 * limit) :
    ∃ frame, Frame.find limit bytes = .complete frame ∧ frame.length = bytes.length := by
  obtain ⟨most, layout⟩ := isFrame_iff_layout.1 is
  have room : bytes.length ≤ 3 * (limit / Frame.minElementLength) + 4 := by
    unfold Frame.minElementLength
    omega
  exact Frame.exists_find_iff.2 ⟨layout.of_length_le room, by omega⟩

end ClusterProxy
