/-! # Entity types

Where the entities of a type live in the store: their table, their attributes and their columns.
Every table name of one store starts with the same prefix.
-/

namespace SheetExport

structure Schema where
  tablePrefix : String
  deriving DecidableEq

structure TagTables where
  terms : String
  termTaxonomy : String
  termRelationships : String
  deriving DecidableEq

namespace Schema

def table (s : Schema) (name : String) : String := s.tablePrefix ++ name

def tagTables (s : Schema) : TagTables :=
  ⟨s.table "terms", s.table "term_taxonomy", s.table "term_relationships"⟩

end Schema

inductive EntityKind where
  | user
  | comment
  | term
  | postLike
  deriving DecidableEq

structure EntityType where
  kind : EntityKind
  label : String
  entityTable : String
  attributeTable : String
  entityId : String
  attributeEntityId : String
  attributeRowId : String
  /-- The post type, for entities that share the posts table. -/
  subtype : Option String
  deriving DecidableEq

/-- The column that holds the subtype in a shared table. -/
def subtypeColumn : String := "post_type"

def postTypeLabel (name : String) : String :=
  if name = "post" then "Posts" else if name = "page" then "Pages" else name

/-- Every name has a type: one that is not known is a type of posts. -/
def Schema.entityType (s : Schema) (name : String) : EntityType :=
  if name = "user" then
    ⟨.user, "Users", s.table "users", s.table "usermeta", "ID", "user_id", "umeta_id", none⟩
  else if name = "comment" then
    ⟨.comment, "Comments", s.table "comments", s.table "commentmeta", "comment_ID", "comment_id",
      "meta_id", none⟩
  else if name = "taxonomy" ∨ name = "term" then
    ⟨.term, "Terms", s.table "terms", s.table "termmeta", "term_id", "term_id", "meta_id", none⟩
  else
    ⟨.postLike, postTypeLabel name, s.table "posts", s.table "postmeta", "ID", "post_id",
      "meta_id", some name⟩

/-! ## Columns offered for selection -/

structure OfferedColumn where
  name : String
  label : String
  deriving DecidableEq

def userColumns : List OfferedColumn :=
  [⟨"ID", "User ID"⟩, ⟨"user_login", "Username"⟩, ⟨"user_pass", "Hashed password"⟩,
    ⟨"user_nicename", "URL-friendly username"⟩, ⟨"user_email", "Email"⟩, ⟨"user_url", "URL"⟩,
    ⟨"user_registered", "Registration date/time"⟩, ⟨"user_activation_key", "Activation key"⟩,
    ⟨"user_status", "Status"⟩, ⟨"display_name", "Display name"⟩]

def postColumns : List OfferedColumn :=
  [⟨"ID", "Post ID"⟩, ⟨"post_author", "Author user ID"⟩, ⟨"post_date", "Date"⟩,
    ⟨"post_date_gmt", "Date (GMT)"⟩, ⟨"post_content", "Content"⟩, ⟨"post_title", "Title"⟩,
    ⟨"post_excerpt", "Excerpt"⟩, ⟨"post_status", "Status"⟩,
    ⟨"comment_status", "Comment status"⟩, ⟨"ping_status", "Ping status"⟩,
    ⟨"post_password", "Password"⟩, ⟨"post_name", "URL-friendly title"⟩, ⟨"to_ping", "To ping"⟩,
    ⟨"pinged", "Pinged"⟩, ⟨"post_modified", "Modified date"⟩,
    ⟨"post_modified_gmt", "Modified date (GMT)"⟩,
    ⟨"post_content_filtered", "Content (filtered)"⟩, ⟨"post_parent", "Parent post ID"⟩,
    ⟨"guid", "URL"⟩, ⟨"menu_order", "Menu order"⟩, ⟨"post_mime_type", "MIME type"⟩,
    ⟨"comment_count", "Comment count"⟩]

def commentColumns : List OfferedColumn :=
  [⟨"comment_ID", "ID"⟩, ⟨"comment_post_ID", "Post ID"⟩, ⟨"comment_author", "Author"⟩,
    ⟨"comment_author_email", "Author email"⟩, ⟨"comment_author_url", "Author URL"⟩,
    ⟨"comment_author_IP", "Author IP address"⟩, ⟨"comment_date", "Date"⟩,
    ⟨"comment_date_gmt", "Date (GMT)"⟩, ⟨"comment_content", "Content"⟩,
    ⟨"comment_karma", "Karma"⟩, ⟨"comment_approved", "Approved"⟩, ⟨"comment_agent", "Agent"⟩,
    ⟨"comment_type", "Type"⟩, ⟨"comment_parent", "Parent ID"⟩, ⟨"user_id", "User ID"⟩]

def termColumns : List OfferedColumn :=
  [⟨"term_id", "ID"⟩, ⟨"name", "Name"⟩, ⟨"slug", "Slug"⟩, ⟨"term_group", "Group ID"⟩]

namespace EntityType

def supportsTags (t : EntityType) : Bool := t.kind = .postLike

def columns (t : EntityType) : List OfferedColumn :=
  match t.kind with
  | .user => userColumns
  | .comment => commentColumns
  | .term => termColumns
  | .postLike => postColumns

/-- The columns in the order of their labels. -/
def offeredColumns (t : EntityType) : List OfferedColumn :=
  t.columns.mergeSort fun a b => !decide (b.label < a.label)

end EntityType

end SheetExport
