import DocQuery.Session.Basic

/-!
The steps of a session and what they reply. A step about a name that no repository has does nothing.
-/
namespace DocQuery

inductive CriteriaInput where
  | request (text : String)
  | parts (filters : List Document) (orderBy orderType : Option String) (limit page : Option UInt64)

def CriteriaInput.criteria : CriteriaInput → Except Error Criteria
  | request text => Criteria.read text
  | parts filters orderBy orderType limit page =>
    Criteria.ofParts filters orderBy orderType limit page

inductive Step where
  | makeRepository (name collection : String) (config : Config) (registry : Option String)
      (indexes : List String) (refused : Option String)
  | insert (name : String) (documents : List Document)
  | state (name : String)
  | createIndex (name field : String)
  | ensureIndexes (name : String)
  | find (name : String) (query : Query)
  | countStored (name : String) (predicate : Document)
  | count (name : String) (criteria : CriteriaInput)
  | search (name : String) (criteria : CriteriaInput)
  | searchText (name : String) (criteria : CriteriaInput)
  | ensureOnce (registry key : String) (fails : Bool)
  | isInitialized (registry key : String)
  | capture
  | take
  | release
  | convert (config : Config) (criteria : CriteriaInput)

inductive Reply where
  | done
  | ids (ids : List Value)
  | state (name : String) (size : Nat) (indexes : List String)
  | ensured (created : Bool) (log : List Log.Line)
  | documents (ds : List Document)
  | total (n : UInt64)
  | page (p : Page)
  | text (s : String)
  | once (result : Except Error Bool) (called : Bool)
  | flag (b : Bool)
  | events (es : Option (List Event))
  | query (q : Query)

namespace Session

def makeRepository (s : Session) (name collection : String) (config : Config)
    (registry : Option String) (indexes : List String) (refused : Option String) : Session :=
  let key := match registry with
    | some shared => RegistryKey.shared shared
    | none => RegistryKey.own s.made
  let refuses : Refusal := fun _ field => refused == some field
  { s.putMember name ⟨⟨config, indexes, .empty collection⟩, key, refuses⟩ with made := s.made + 1 }

def insert (s : Session) (name : String) (m : Member) (ds : List Document) : Session × Reply :=
  let (store, ids, inserted) := m.repository.store.insertAll s.ids ds
  ({ s.putRepository name m { m.repository with store } with ids }, .ids inserted)

def createIndex (s : Session) (name : String) (m : Member) (field : String) :
    Session × Except Error Reply :=
  if m.refuses 0 field then (s, .error (.internal (.indexRefused field)))
  else
    let store := m.repository.store.createIndex field
    (s.putRepository name m { m.repository with store }, .ok .done)

def ensureIndexes (s : Session) (name : String) (m : Member) : Session × Except Error Reply :=
  let e := m.repository.ensureIndexes (s.registry m.registry) m.refuses
  ((s.putRepository name m e.repository).putRegistry m.registry e.registry,
   e.result.map fun created => .ensured created e.log)

/-- Searches with criteria that are sound; bad ones end the step before anything is done. -/
def search (s : Session) (name : String) (m : Member) (input : CriteriaInput)
    (reply : Page → Reply) : Session × Except Error Reply :=
  match input.criteria with
  | .error e => (s, .error e)
  | .ok criteria =>
    let found := m.repository.search (s.registry m.registry) m.refuses criteria
    let s := (s.putRepository name m found.repository).putRegistry m.registry found.registry
    (s.recordAll found.conversion, found.result.map reply)

def ensureOnce (s : Session) (registry key : String) (fails : Bool) : Session × Reply :=
  let done := s.registry (.shared registry)
  let (after, result) := done.ensureOnce key (if fails then .error .io else .ok ())
  (s.putRegistry (.shared registry) after, .once result !(done.contains key))

def convert (s : Session) (config : Config) (input : CriteriaInput) :
    Session × Except Error Reply :=
  match input.criteria.bind fun criteria => criteria.convert config with
  | .error e => (s, .error e)
  | .ok v => (s.record v.event, .ok (.query v.query))

def withMember (s : Session) (name : String) (f : Member → Session × Except Error Reply) :
    Session × Except Error Reply :=
  match s.member? name with
  | some m => f m
  | none => (s, .ok .done)

def step (s : Session) : Step → Session × Except Error Reply
  | .makeRepository name collection config registry indexes refused =>
    (s.makeRepository name collection config registry indexes refused, .ok .done)
  | .insert name ds => s.withMember name fun m =>
    let (s, reply) := s.insert name m ds
    (s, .ok reply)
  | .state name => s.withMember name fun m =>
    let store := m.repository.store
    (s, .ok (.state store.name store.documents.length store.indexes))
  | .createIndex name field => s.withMember name fun m => s.createIndex name m field
  | .ensureIndexes name => s.withMember name fun m => s.ensureIndexes name m
  | .find name query => s.withMember name fun m =>
    (s, (m.repository.store.find query).map .documents)
  | .countStored name predicate => s.withMember name fun m =>
    (s, (m.repository.store.count predicate).map .total)
  | .count name input => s.withMember name fun m =>
    (s, (input.criteria.bind fun criteria => (m.repository.count criteria).result).map .total)
  | .search name input => s.withMember name fun m => s.search name m input .page
  | .searchText name input => s.withMember name fun m =>
    s.search name m input fun p => .text p.text
  | .ensureOnce registry key fails =>
    let (s, reply) := s.ensureOnce registry key fails
    (s, .ok reply)
  | .isInitialized registry key => (s, .ok (.flag ((s.registry (.shared registry)).contains key)))
  | .capture => ({ s with capture := some [] }, .ok .done)
  | .take => ({ s with capture := s.capture.map fun _ => [] }, .ok (.events s.capture))
  | .release => ({ s with capture := none }, .ok .done)
  | .convert config input => s.convert config input

def run (s : Session) : List Step → Session × List (Except Error Reply)
  | [] => (s, [])
  | first :: rest =>
    let (s, reply) := s.step first
    let (s, replies) := s.run rest
    (s, reply :: replies)

end Session

end DocQuery
