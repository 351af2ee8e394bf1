import Superstore.Paging.Basic
import Superstore.Store.Schema

/-!
# The history of a conversation

A page of a conversation shows the last messages before a cursor, the oldest first, and the next
cursor is the oldest message of a full page. New messages may arrive between two pages.
-/

namespace Superstore.Chats

open Paging

/-- A store, as far as its members take part in conversations. -/
structure Store where
  ownerUserId : ℕ
  members : List ℕ

/-- A conversation. -/
structure ChatConversation where
  adminId : Option ℕ
  participantId : ℕ
  store : Option Store

/-- A message of a conversation. -/
structure ChatMessage where
  id : ℕ
  conversationId : ℕ
  senderId : ℕ
  body : String
  deriving DecidableEq

/-- The messages of all conversations. Their keys are issued once, and from one on. -/
structure ChatMessages where
  rows : List ChatMessage
  keys_nodup : (rows.map (·.id)).Nodup
  keys_pos : ∀ m ∈ rows, 0 < m.id

/-- The tables of the chats. -/
structure Tables where
  chatConversation : ℕ → Option ChatConversation
  chatMessage : ChatMessages

/-- The members of a conversation. -/
def ChatConversation.isMember (c : ChatConversation) (userId : ℕ) : Bool :=
  c.participantId == userId || c.adminId == some userId || (c.store.map (·.ownerUserId)) == some userId ||
    c.store.any fun s => s.members.contains userId

/-- A conversation may be read by its members. -/
def assertMember (db : Tables) (userId id : ℕ) : Except Error ChatConversation := do
  let conversation ← fromOption (db.chatConversation id) (.notFound "Conversation not found.")
  ensure (conversation.isMember userId) (.forbidden "You do not have access to this conversation.")
  pure conversation

/-- A page of a conversation. -/
structure Page where
  items : List ChatMessage
  nextCursor : Option ℕ

/-- The messages of a conversation. -/
def ChatMessages.of (t : ChatMessages) (id : ℕ) : List ChatMessage := t.rows.filter (·.conversationId == id)

/-- The page before a cursor; a cursor of zero counts as none. -/
def pageOf (t : ChatMessages) (id : ℕ) (cursor : Option ℕ) (limit : ℤ) : Page :=
  let limit := (min 15 (max 1 limit)).toNat
  let items := (pageBefore (·.id) (t.of id) (cursor.filter (· != 0)) limit).reverse
  ⟨items, if items.length = limit then items.head?.map (·.id) else none⟩

/-- A page of a conversation, for its members. -/
def messages (db : Tables) (userId id : ℕ) (cursor : Option ℕ) (limit : ℤ) : Except Error Page := do
  let _ ← assertMember db userId id
  pure (pageOf db.chatMessage id cursor limit)

/-- The tables at each call of somebody who reads a conversation: a member of it, while messages only arrive. -/
structure Reading (userId id : ℕ) where
  tables : ℕ → Tables
  member : ∀ i, ∃ c, assertMember (tables i) userId id = .ok c
  arrive : ∀ i, (tables i).chatMessage.rows ⊆ (tables (i + 1)).chatMessage.rows

/-- The pages that are read from a call on, when every next cursor is followed to the end. -/
inductive Follows {userId id : ℕ} (r : Reading userId id) (limit : ℤ) : ℕ → Option ℕ → List Page → Prop
  | last {i : ℕ} {cursor : Option ℕ} {page : Page}
      (hpage : messages (r.tables i) userId id cursor limit = .ok page) (hend : page.nextCursor = none) :
      Follows r limit i cursor [page]
  | next {i : ℕ} {cursor : Option ℕ} {page : Page} {next : ℕ} {pages : List Page}
      (hpage : messages (r.tables i) userId id cursor limit = .ok page) (hnext : page.nextCursor = some next)
      (hrest : Follows r limit (i + 1) (some next) pages) : Follows r limit i cursor (page :: pages)

/-! ## One page -/

/-- A row comes before a cursor, if there is one. -/
def Before (cursor : Option ℕ) (m : ChatMessage) : Prop := ∀ c, cursor = some c → m.id < c

/-- A page shows messages before its cursor, the oldest first, and leaves out none that come after its
next cursor. -/
structure Shows (ms : List ChatMessage) (cursor : Option ℕ) (page : Page) : Prop where
  ascending : page.items.Pairwise fun a b => a.id < b.id
  before : ∀ m ∈ page.items, Before cursor m
  ends : page.nextCursor = none → ∀ m ∈ ms, Before cursor m → m ∈ page.items
  lower : ∀ next, page.nextCursor = some next → 0 < next ∧ ∀ c, cursor = some c → next < c
  least : ∀ next, page.nextCursor = some next → ∀ m ∈ page.items, next ≤ m.id
  left : ∀ next, page.nextCursor = some next → ∀ m ∈ ms, Before cursor m → m ∈ page.items ∨ m.id < next

/-- A page of the code shows what a page before a cursor is to show. -/
theorem pageOf_shows (t : ChatMessages) (id : ℕ) {cursor : Option ℕ} (hcursor : ∀ c, cursor = some c → 0 < c)
    (limit : ℤ) : Shows (t.of id) cursor (pageOf t id cursor limit) := by
  have hfilter : cursor.filter (· != 0) = cursor := by
    cases cursor with
    | none => rfl
    | some c => simpa using (hcursor c rfl).ne'
  have hkeys : ((t.of id).map (·.id)).Nodup := t.keys_nodup.sublist (List.filter_sublist.map _)
  have hlimit : 1 ≤ (min 15 (max 1 limit)).toNat := by omega
  unfold pageOf
  dsimp only
  rw [hfilter]
  generalize (min 15 (max 1 limit)).toNat = n at hlimit
  have hfalling : (pageBefore (·.id) (t.of id) cursor n).Pairwise fun a b => b.id < a.id :=
    pageBefore_pairwise hkeys
  have hmember : ∀ m ∈ pageBefore (·.id) (t.of id) cursor n, m ∈ t.of id ∧ Before cursor m :=
    fun m => mem_of_mem_pageBefore
  have hcover : ∀ m ∈ t.of id, Before cursor m → m ∈ pageBefore (·.id) (t.of id) cursor n ∨
      (pageBefore (·.id) (t.of id) cursor n).length = n ∧
        ∀ b ∈ pageBefore (·.id) (t.of id) cursor n, m.id ≤ b.id := fun m => mem_pageBefore_or
  generalize pageBefore (·.id) (t.of id) cursor n = page at hfalling hmember hcover
  have hascending : page.reverse.Pairwise fun a b => a.id < b.id := List.pairwise_reverse.mpr hfalling
  rw [List.length_reverse]
  have hnext (next : ℕ) (h : (if page.length = n then page.reverse.head?.map (·.id) else none) = some next) :
      page.length = n ∧ ∃ m ∈ page, m.id = next ∧ ∀ a ∈ page, next ≤ a.id := by
    split at h
    · next hfull =>
      obtain ⟨m, hm, rfl⟩ := Option.map_eq_some_iff.mp h
      obtain ⟨rest, hrest⟩ := List.head?_eq_some_iff.mp hm
      rw [hrest] at hascending
      refine ⟨hfull, m, ?_, rfl, fun a ha => ?_⟩
      · exact List.mem_reverse.mp (hrest ▸ List.mem_cons_self)
      · have hmem : a ∈ m :: rest := hrest ▸ List.mem_reverse.mpr ha
        rcases List.mem_cons.mp hmem with rfl | hlater
        · exact le_rfl
        · exact (List.rel_of_pairwise_cons hascending hlater).le
    · cases h
  exact
    { ascending := hascending
      before := fun m hm => (hmember m (List.mem_reverse.mp hm)).2
      ends := by
        intro hend m hm hbefore
        refine List.mem_reverse.mpr ((hcover m hm hbefore).resolve_right fun ⟨hfull, _⟩ => ?_)
        -- A full page has a first item, so that it has a next cursor.
        rw [if_pos hfull, Option.map_eq_none_iff, List.head?_eq_none_iff, List.reverse_eq_nil_iff] at hend
        rw [hend] at hfull
        exact absurd hlimit (by rw [← hfull]; decide)
      lower := by
        intro next h
        obtain ⟨-, m, hm, rfl, -⟩ := hnext next h
        exact ⟨t.keys_pos m (List.mem_filter.mp (hmember m hm).1).1, (hmember m hm).2⟩
      least := fun next h m hm => (hnext next h).2.choose_spec.2.2 m (List.mem_reverse.mp hm)
      left := by
        intro next h m hm hbefore
        obtain ⟨hfull, least, hleast, rfl, hall⟩ := hnext next h
        rcases hcover m hm hbefore with hpage | ⟨-, hle⟩
        · exact .inl (List.mem_reverse.mpr hpage)
        · rcases (hle least hleast).lt_or_eq with hlt | heq
          · exact .inr hlt
          · have hsame : m = least := List.inj_on_of_nodup_map hkeys hm (hmember least hleast).1 heq
            exact .inl (List.mem_reverse.mpr (hsame ▸ hleast)) }

/-! ## All pages -/

variable {userId id : ℕ} {r : Reading userId id} {limit : ℤ}

/-- A member is shown the page. -/
theorem messages_eq (r : Reading userId id) (limit : ℤ) (i : ℕ) (cursor : Option ℕ) :
    messages (r.tables i) userId id cursor limit = .ok (pageOf (r.tables i).chatMessage id cursor limit) := by
  obtain ⟨c, hc⟩ := r.member i
  rw [messages, hc]
  rfl

/-- Following the next cursor comes to an end, since it falls. -/
theorem follows_ends (r : Reading userId id) (limit : ℤ) (i : ℕ) (cursor : Option ℕ)
    (hcursor : ∀ c, cursor = some c → 0 < c) : ∃ pages, Follows r limit i cursor pages := by
  have hbelow (c : ℕ) : ∀ i, 0 < c → ∃ pages, Follows r limit i (some c) pages := by
    induction c using Nat.strong_induction_on with
    | _ c ih =>
      intro i hc
      have hpos : ∀ d, some c = some d → 0 < d := fun d hd => Option.some.inj hd ▸ hc
      have hshows := pageOf_shows (r.tables i).chatMessage id hpos limit
      cases hnext : (pageOf (r.tables i).chatMessage id (some c) limit).nextCursor with
      | none => exact ⟨_, .last (messages_eq r limit i _) hnext⟩
      | some next =>
        obtain ⟨hpositive, hlower⟩ := hshows.lower next hnext
        obtain ⟨pages, hpages⟩ := ih next (hlower c rfl) (i + 1) hpositive
        exact ⟨_, .next (messages_eq r limit i _) hnext hpages⟩
  have hshows := pageOf_shows (r.tables i).chatMessage id hcursor limit
  cases hnext : (pageOf (r.tables i).chatMessage id cursor limit).nextCursor with
  | none => exact ⟨_, .last (messages_eq r limit i _) hnext⟩
  | some next =>
    obtain ⟨pages, hpages⟩ := hbelow next (i + 1) (hshows.lower next hnext).1
    exact ⟨_, .next (messages_eq r limit i _) hnext hpages⟩

/-- The pages from a call on show the messages that are there before the cursor, in falling order of the pages. -/
structure ReadsBefore (ms : List ChatMessage) (cursor : Option ℕ) (pages : List Page) : Prop where
  ascending : ∀ p ∈ pages, p.items.Pairwise fun a b => a.id < b.id
  before : ∀ p ∈ pages, ∀ m ∈ p.items, Before cursor m
  falling : pages.Pairwise fun p q => ∀ a ∈ p.items, ∀ b ∈ q.items, b.id < a.id
  complete : ∀ m ∈ ms, Before cursor m → ∃ p ∈ pages, m ∈ p.items

/-- A message that has arrived stays in the conversation. -/
theorem Reading.of_succ (r : Reading userId id) {i : ℕ} {m : ChatMessage}
    (hm : m ∈ (r.tables i).chatMessage.of id) : m ∈ (r.tables (i + 1)).chatMessage.of id :=
  List.mem_filter.mpr ((List.mem_filter.mp hm).imp_left (@r.arrive i m))

/-- The pages that are read from a call on show what is there before the cursor at that call. -/
theorem Follows.readsBefore {i : ℕ} {cursor : Option ℕ} {pages : List Page} (h : Follows r limit i cursor pages)
    (hcursor : ∀ c, cursor = some c → 0 < c) :
    ReadsBefore ((r.tables i).chatMessage.of id) cursor pages := by
  induction h with
  | @last i cursor page hpage hend =>
    have hshows := pageOf_shows (r.tables i).chatMessage id hcursor limit
    rw [messages_eq] at hpage
    obtain rfl := Except.ok.inj hpage
    exact
      { ascending := fun p hp => List.mem_singleton.mp hp ▸ hshows.ascending
        before := fun p hp => List.mem_singleton.mp hp ▸ hshows.before
        falling := List.pairwise_singleton _ _
        complete := fun m hm hbefore => ⟨_, List.mem_singleton_self _, hshows.ends hend m hm hbefore⟩ }
  | @next i cursor page next pages hpage hnext hrest ih =>
    have hshows := pageOf_shows (r.tables i).chatMessage id hcursor limit
    rw [messages_eq] at hpage
    obtain rfl := Except.ok.inj hpage
    obtain ⟨hpositive, hlower⟩ := hshows.lower next hnext
    have hreads := ih fun c hc => Option.some.inj hc ▸ hpositive
    have hbelow : ∀ p ∈ pages, ∀ m ∈ p.items, m.id < next := fun p hp m hm => hreads.before p hp m hm next rfl
    refine ⟨?_, ?_, ?_, ?_⟩
    · exact List.forall_mem_cons.mpr ⟨hshows.ascending, hreads.ascending⟩
    · refine List.forall_mem_cons.mpr ⟨hshows.before, fun p hp m hm c hc => ?_⟩
      exact (hbelow p hp m hm).trans (hlower c hc)
    · refine List.pairwise_cons.mpr ⟨fun q hq a ha b hb => ?_, hreads.falling⟩
      exact (hbelow q hq b hb).trans_le (hshows.least next hnext a ha)
    · intro m hm hbefore
      rcases hshows.left next hnext m hm hbefore with hpage | hlt
      · exact ⟨_, List.mem_cons_self, hpage⟩
      · obtain ⟨p, hp, hmem⟩ := hreads.complete m (r.of_succ hm) fun c hc => Option.some.inj hc ▸ hlt
        exact ⟨p, List.mem_cons_of_mem _ hp, hmem⟩

/-- The pages that are read show every message that was there at the first call once, each page in
ascending order, and later pages earlier messages. -/
structure ReadsAll (r : Reading userId id) (pages : List Page) : Prop where
  once : ∀ m ∈ (r.tables 0).chatMessage.of id, (pages.flatMap (·.items)).count m = 1
  ascending : ∀ p ∈ pages, p.items.Pairwise fun a b => a.id < b.id
  falling : pages.Pairwise fun p q => ∀ a ∈ p.items, ∀ b ∈ q.items, b.id < a.id

/-- Following the next cursor from the first call on ends, and reads the whole conversation, whatever
messages arrive in the meantime. -/
theorem history_read_once (r : Reading userId id) (limit : ℤ) :
    (∃ pages, Follows r limit 0 none pages) ∧ ∀ pages, Follows r limit 0 none pages → ReadsAll r pages := by
  have hcursor : ∀ c, (none : Option ℕ) = some c → 0 < c := fun c hc => by cases hc
  refine ⟨follows_ends r limit 0 none hcursor, fun pages h => ?_⟩
  have hreads := h.readsBefore hcursor
  refine ⟨fun m hm => ?_, hreads.ascending, hreads.falling⟩
  obtain ⟨p, hp, hmem⟩ := hreads.complete m hm fun c hc => by cases hc
  refine List.count_eq_one_of_mem ?_ (List.mem_flatMap.mpr ⟨p, hp, hmem⟩)
  refine List.nodup_flatMap.mpr ⟨fun q hq => (hreads.ascending q hq).imp fun hlt heq => ?_, ?_⟩
  · exact absurd (congrArg ChatMessage.id heq) hlt.ne
  · refine hreads.falling.imp fun {p q} hfalls a ha hb => ?_
    exact absurd (hfalls a ha a hb) (lt_irrefl _)

/-! ## A conversation that goes on while it is read -/

/-- The messages of a conversation, as many as there are by now. -/
def arrived (n : ℕ) : ChatMessages where
  rows := (List.range n).reverse.map fun k => ⟨k + 1, 1, 7, "Hello"⟩
  keys_nodup := by
    rw [List.map_map]
    exact (List.nodup_reverse.mpr List.nodup_range).map fun a b h => Nat.succ.inj h
  keys_pos m hm := by
    obtain ⟨k, -, rfl⟩ := List.mem_map.mp hm
    exact k.succ_pos

/-- A page of these messages is cut out of them as they are. -/
theorem pageOf_arrived (n : ℕ) (cursor : Option ℕ) :
    pageOf (arrived n) 1 cursor 2 =
      let items := ((((arrived n).of 1).filter fun m => (cursor.filter (· != 0)).all fun c =>
        decide (m.id < c)).take 2).reverse
      ⟨items, if items.length = 2 then items.head?.map (·.id) else none⟩ := by
  have hfalling : ((arrived n).of 1).Pairwise fun a b => b.id ≤ a.id := by
    refine List.Pairwise.filter _ (List.pairwise_map.mpr (List.pairwise_reverse.mpr ?_))
    exact List.pairwise_lt_range.imp fun hlt => Nat.succ_le_succ hlt.le
  rw [pageOf, pageBefore_of_pairwise hfalling]
  rfl

/-- Five messages are there at the first call, and one more arrives before each further call. -/
def growing : Reading 7 1 where
  tables i := ⟨fun _ => some ⟨none, 7, none⟩, arrived (5 + i)⟩
  member _ := ⟨_, rfl⟩
  arrive _ := List.map_subset _ (List.reverse_subset.mpr
    (List.Subset.trans (List.range_subset.mpr (Nat.le_succ _)) (List.subset_reverse.mpr (List.Subset.refl _))))

/-- Pages of two messages, while the sixth and the seventh one arrive. -/
theorem history_read_once_growing :
    ∃ pages, Follows growing 2 0 none pages ∧
      pages.map (fun p => p.items.map (·.id)) = [[4, 5], [2, 3], [1]] ∧ ReadsAll growing pages := by
  have hfollows : Follows growing 2 0 none
      [pageOf (arrived 5) 1 none 2, pageOf (arrived 6) 1 (some 4) 2, pageOf (arrived 7) 1 (some 2) 2] := by
    refine .next (messages_eq growing 2 0 none) (congrArg Page.nextCursor (pageOf_arrived 5 none)) ?_
    refine .next (messages_eq growing 2 1 (some 4)) (congrArg Page.nextCursor (pageOf_arrived 6 (some 4))) ?_
    exact .last (messages_eq growing 2 2 (some 2)) (congrArg Page.nextCursor (pageOf_arrived 7 (some 2)))
  refine ⟨_, hfollows, ?_, (history_read_once growing 2).2 _ hfollows⟩
  rw [pageOf_arrived, pageOf_arrived, pageOf_arrived]
  decide +kernel

end Superstore.Chats
