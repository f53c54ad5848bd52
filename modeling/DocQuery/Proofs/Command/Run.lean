import DocQuery.Proofs.Command.Data
import DocQuery.Proofs.Command.Perform
import DocQuery.Proofs.Json.Lines
import DocQuery.Proofs.Store.InsertionOrder
import DocQuery.Proofs.Store.Search
import Mathlib

/-!
The search of a file. It puts the documents of the lines into a store and hands on what is found
there, each on a line of its own; and like every command it writes all or nothing.
-/
namespace DocQuery

namespace Command

variable {c : Config} {files : Files} {a : Action} {criteria : Criteria} {arg data text : String}
  {bytes : ByteArray} {store : Store}

/-- A search of a file fails as the search of the store does, or hands on one text for each item;
together the texts are as many lines, each ended. -/
structure Shows (c : Config) (files : Files) (a : Action) (found : Except Error Page) : Prop where
  fails : ∀ e, found = .error e → FailsFirst c files a e
  lines : ∀ p, found = .ok p → ∃ texts, HandsOn c files a texts
    ∧ texts = p.items.map (fun d => d.relaxed.compact ++ "\n")
    ∧ Text.split '\n' (String.join texts) = (p.items.map fun d => d.relaxed.compact) ++ [""]

theorem split_itemLines (items : List Document) :
    Text.split '\n' (String.join (items.map itemLine))
      = (items.map fun d => d.relaxed.compact) ++ [""] := by
  have hlines : ∀ s ∈ items.map fun d => d.relaxed.compact, OneLine s := by
    intro s hs
    obtain ⟨d, -, rfl⟩ := List.mem_map.mp hs
    exact d.relaxed.oneLine_compact
  rw [← Text.split_lines hlines, List.map_map]
  rfl

theorem shows_of_load (hrequest : request files arg = .ok criteria)
    (hload : Data.load data (files data) = .ok store) :
    Shows c files (.run arg data) (sought c store criteria).result where
  fails _ hfound := failsFirst_of_sought hrequest hload hfound
  lines p hfound := ⟨_, handsOn_of_sought hrequest hload hfound, rfl, split_itemLines p.items⟩

/-- What becomes of a file. The first fault of its lines is the error, if there is one. Otherwise the
documents of the lines that are not blank are put into an empty store, in their order, and what the
search of that store finds is shown. -/
structure ExecutesFile (c : Config) (files : Files) (arg data : String) (criteria : Criteria)
    (text : String) : Prop where
  stops : (∃ l ∈ Data.numbered text, ∃ e, Data.Faulty data l e) → ∃ e, Data.FirstFault data text e
  fails : ∀ e, Data.FirstFault data text e → FailsFirst c files (.run arg data) e
  finds : (∀ l ∈ Data.numbered text, ∀ e, ¬ Data.Faulty data l e) →
    ∃ ds held, List.Forall₂ Data.Denotes (Data.filled text) ds
      ∧ List.Forall₂ Store.HeldAs ds held
      ∧ ((Store.empty data).insertAll .initial ds).1 = ⟨data, held, []⟩
      ∧ Shows c files (.run arg data) (sought c ⟨data, held, []⟩ criteria).result

theorem executesFile (hrequest : request files arg = .ok criteria)
    (hdata : files data = some (.file bytes)) (htext : String.fromUTF8? bytes = some text) :
    ExecutesFile c files arg data criteria text := by
  have hload : Data.load data (files data)
      = Data.insertLines data (.empty data) .initial 1 ((Text.split '\n' text).map some) := by
    rw [hdata]
    exact Data.load_eq htext
  refine ⟨Data.exists_firstFault, fun e he => ?_, fun hsound => ?_⟩
  · exact failsFirst_of_load hrequest (hload.trans (Data.insertLines_eq_error_iff.mpr he))
  · cases hread : Data.insertLines data (.empty data) .initial 1 ((Text.split '\n' text).map some) with
    | error e =>
      obtain ⟨before, l, after, hl, -, he⟩ := Data.insertLines_eq_error_iff.mp hread
      have hmem : l ∈ Data.numbered text := by simp [Data.numbered, hl]
      exact absurd he (hsound l hmem e)
    | ok store =>
      obtain ⟨ds, hds, rfl⟩ := Data.insertLines_eq_ok_iff.mp hread
      obtain ⟨held, hheld, hstore⟩ := (Store.empty data).insertAll_held .initial ds
      rw [hstore] at hread
      exact ⟨ds, held, hds, hheld, hstore, shows_of_load hrequest (hload.trans hread)⟩

/-- A request that can be read is carried out on any file that is text, line by line, where a line
that is no JSON is named by its number in the file. No command that fails has handed anything on,
unless one of its texts was refused; where none is refused, it has written nothing. -/
theorem commands_all_or_nothing (c : Config) (files : Files) :
    (∀ (arg data : String) (criteria : Criteria) (bytes : ByteArray) (text : String),
      request files arg = .ok criteria → files data = some (.file bytes) →
      String.fromUTF8? bytes = some text → ExecutesFile c files arg data criteria text)
    ∧ (∀ (data : String) (n : Nat), (Error.invalidArgument (.line data n)).message
      = "Invalid argument: " ++ (data ++ ":" ++ toString n))
    ∧ ∀ a : Action, AllOrNothing c files a
      ∧ ∀ e, (act c files a).result = .error e → (act c files a).texts = [] :=
  ⟨fun _ _ _ _ _ hrequest hdata htext => executesFile hrequest hdata htext, fun _ _ => rfl,
    fun a => ⟨allOrNothing c files a, fun _ => texts_act_of_error⟩⟩

def paid : Document := [("_id", .int32 1), ("paid", .boolean true)]

def owed : Document := [("_id", .int32 2), ("paid", .boolean false)]

def paidLine : String := "\x7b\"_id\": 1, \"paid\": true\x7d"

def owedLine : String := "\x7b\"paid\": false, \"_id\": 2\x7d"

def ledger : String := " \n" ++ paidLine ++ "\n" ++ owedLine

def tornLedger : String := " \n" ++ paidLine ++ "\n\x7b\"paid\": "

def ledgerFiles : Files := fun path =>
  if path = "ledger.ndjson" then some (.file ledger.toUTF8)
  else if path = "torn.ndjson" then some (.file tornLedger.toUTF8)
  else none

theorem denotes_paidLine : Data.Denotes paidLine paid := by
  have hread : Json.read? paidLine = some (.object [("_id", .int 1), ("paid", .bool true)]) := by
    cbv
  exact ⟨_, hread, rfl, .cons (.narrow (by decide)) (.cons (.bool true) .nil)⟩

theorem denotes_owedLine : Data.Denotes owedLine owed := by
  have hread : Json.read? owedLine = some (.object [("_id", .int 2), ("paid", .bool false)]) := by
    cbv
  exact ⟨_, hread, rfl, .cons (.narrow (by decide)) (.cons (.bool false) .nil)⟩

theorem result_sought_ledger (name : String) :
    (sought .default ⟨name, [paid, owed], []⟩ ⟨[], .unordered, none, none⟩).result
      = .ok ⟨[[("paid", .boolean false)], [("paid", .boolean true)]], 2, none, none⟩ := by
  have hafter : (Document.compareBy [("_id", .int32 (-1))] paid owed).isLE = false := by
    decide +kernel
  have harranged : Store.arranged [("_id", .int32 (-1))] [paid, owed] = [owed, paid] := by
    change Document.sorted [("_id", .int32 (-1))] _ = _
    simp [Document.sorted, List.mergeSort, hafter]
  let r : Repository := ⟨.default, [], ⟨name, [paid, owed], []⟩⟩
  have hensured : (r.ensureIndexes [] fun _ _ => false).result = .ok true := rfl
  have hasked : r.asked [] = .ok [paid, owed] := rfl
  have hresult := Repository.result_search hensured ⟨[], .unordered, none, none⟩
  rw [hasked] at hresult
  refine hresult.trans ?_
  have hsort : Order.unordered.sort r.config = [("_id", .int32 (-1))] := rfl
  simp only [Except.map, Repository.pageOf, hsort, harranged]
  rfl

theorem blank_line : Data.isBlank " " = true := by decide +kernel

theorem numbered_ledger : Data.numbered ledger = [(" ", 1), (paidLine, 2), (owedLine, 3)] := by cbv

theorem not_faulty_blank (file : String) (e : Error) : ¬ Data.Faulty file (" ", 1) e :=
  Data.not_faulty_of_ok (Data.document?_of_blank blank_line) e

theorem sound_ledger (file : String) :
    ∀ l ∈ Data.numbered ledger, ∀ e, ¬ Data.Faulty file l e := by
  rw [numbered_ledger]
  intro l hl
  simp only [List.mem_cons, List.not_mem_nil, or_false] at hl
  obtain rfl | rfl | rfl := hl
  · exact not_faulty_blank file
  · exact denotes_paidLine.not_faulty
  · exact denotes_owedLine.not_faulty

theorem documents_ledger {ds : List Document}
    (h : List.Forall₂ Data.Denotes (Data.filled ledger) ds) : ds = [paid, owed] := by
  have hlines : Text.split '\n' ledger = [" ", paidLine, owedLine] := by cbv
  have hpaid : Data.isBlank paidLine = false := by decide +kernel
  have howed : Data.isBlank owedLine = false := by decide +kernel
  simp only [Data.filled, hlines, List.filter_cons, blank_line, hpaid, howed] at h
  cases h with
  | cons hd hrest =>
    cases hrest with
    | cons hd' hnone =>
      cases hnone
      rw [hd.unique denotes_paidLine, hd'.unique denotes_owedLine]

/-- The later of two documents is found first, and so it is written first. A blank line counts for
the number of the line at fault. -/
theorem commands_all_or_nothing_ledger :
    HandsOn .default ledgerFiles (.run "\x7b\x7d" "ledger.ndjson")
        ["\x7b\"paid\":false\x7d\n", "\x7b\"paid\":true\x7d\n"]
      ∧ FailsFirst .default ledgerFiles (.run "\x7b\x7d" "torn.ndjson")
        (.invalidArgument (.line "torn.ndjson" 3)) := by
  have hrequest : request ledgerFiles "\x7b\x7d" = .ok ⟨[], .unordered, none, none⟩ := by cbv
  obtain ⟨hexecutes, -, -⟩ := commands_all_or_nothing .default ledgerFiles
  constructor
  · have htext : String.fromUTF8? ledger.toUTF8 = some ledger := dif_pos ledger.isValidUTF8
    have hfile := hexecutes "\x7b\x7d" "ledger.ndjson" _ _ ledger hrequest rfl htext
    obtain ⟨ds, held, hds, -, hstore, hshows⟩ := hfile.finds (sound_ledger _)
    have hread : ds = [paid, owed] := documents_ledger hds
    have hheld : held = [paid, owed] := by
      have hids : ∀ d ∈ ds, (d.get? Store.idKey).isSome = true := by
        rw [hread]
        decide
      have hdocuments := Store.documents_insertAll hids (Store.empty "ledger.ndjson") .initial
      rw [hstore, hread] at hdocuments
      exact hdocuments
    rw [hheld] at hshows
    obtain ⟨texts, hands, htexts, -⟩ := hshows.lines _ (result_sought_ledger _)
    have hwritten : texts = ["\x7b\"paid\":false\x7d\n", "\x7b\"paid\":true\x7d\n"] := by
      rw [htexts]
      cbv
    exact hwritten ▸ hands
  · have htext : String.fromUTF8? tornLedger.toUTF8 = some tornLedger :=
      dif_pos tornLedger.isValidUTF8
    have hlines : Data.numbered tornLedger
        = [(" ", 1), (paidLine, 2)] ++ ("\x7b\"paid\": ", 3) :: [] := by cbv
    have hcut : Json.read? "\x7b\"paid\": " = none := by cbv
    have hfile := hexecutes "\x7b\x7d" "torn.ndjson" _ _ tornLedger hrequest rfl htext
    refine hfile.fails _ ⟨_, _, _, hlines, ?_, .notJson (by decide +kernel) hcut⟩
    exact List.forall_mem_cons.mpr ⟨not_faulty_blank _, List.forall_mem_singleton.mpr
      denotes_paidLine.not_faulty⟩

end Command

end DocQuery
