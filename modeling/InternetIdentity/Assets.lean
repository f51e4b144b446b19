import InternetIdentity.Storage.Device

namespace InternetIdentity.Assets

/-! # The certified assets

`init_assets` of `assets.rs` stores every asset of `get_assets` under its
path, with the headers its encoding and type call for, and the hash of its
content under the same path.  The paths are distinct, so no insertion
overwrites another, and each path serves exactly its own asset.  The page
contents are build artifacts under `dist/`, not under src/, and the MIME
names and the hash function are declared outside it, so all three are
parameters.
-/

inductive ContentEncoding where
  | identity
  | gzip
deriving DecidableEq, Repr

inductive ContentType where
  | html
  | js
  | ico
  | webp
  | css
  | octetstream
deriving DecidableEq, Repr

/-- Modelled from the spec: the files of `dist/` that `include_str!` and
`include_bytes!` embed are not under src/; the two pages are taken after
`fixup_html`. -/
structure Dist where
  indexHtml : List UInt8
  aboutHtml : List UInt8
  indexJsGz : List UInt8
  indexCss : List UInt8
  loaderWebp : List UInt8
  faviconIco : List UInt8

abbrev Asset := String × List UInt8 × ContentEncoding × ContentType

abbrev HeaderField := String × String

def getAssets (dist : Dist) : List Asset :=
  [("/", dist.indexHtml, .identity, .html),
    ("/about", dist.aboutHtml, .identity, .html),
    ("/index.html", dist.indexHtml, .identity, .html),
    ("/index.js", dist.indexJsGz, .gzip, .js),
    ("/index.css", dist.indexCss, .identity, .css),
    ("/loader.webp", dist.loaderWebp, .identity, .webp),
    ("/favicon.ico", dist.faviconIco, .identity, .ico),
    ("/.well-known/ic-domains", Storage.byteBufFrom "identity.internetcomputer.org", .identity,
      .octetstream)]

/-- The headers `init_assets` gives an asset; `to_mime_type_string` is the
parameter `mimeType`. -/
def assetHeaders (mimeType : ContentType → String) (contentEncoding : ContentEncoding)
    (contentType : ContentType) : List HeaderField :=
  let headers : List HeaderField :=
    match contentEncoding with
    | .identity => []
    | .gzip => [("Content-Encoding", "gzip")]
  headers ++ [("Content-Type", mimeType contentType)]

theorem assetHeaders_spec (mimeType : ContentType → String) (contentEncoding : ContentEncoding)
    (contentType : ContentType) :
    (assetHeaders mimeType contentEncoding contentType).filter (·.1 == "Content-Type") =
        [("Content-Type", mimeType contentType)] ∧
      (("Content-Encoding", "gzip") ∈ assetHeaders mimeType contentEncoding contentType ↔
        contentEncoding = .gzip) := by
  cases contentEncoding <;> simp [assetHeaders]

/-- `insert` of the `HashMap` of assets and of the `RbTree` of hashes. -/
def insert (map : String → Option β) (key : String) (value : β) : String → Option β :=
  fun other => if other = key then some value else map other

/-- `init_assets`, on the assets and the asset hashes it finds. -/
def initAssets (sha256 : List UInt8 → Hash) (mimeType : ContentType → String) (dist : Dist)
    (assets : String → Option (List HeaderField × List UInt8))
    (assetHashes : String → Option Hash) :
    (String → Option (List HeaderField × List UInt8)) × (String → Option Hash) :=
  (getAssets dist).foldl
    (fun (assets, assetHashes) (path, content, contentEncoding, contentType) =>
      (insert assets path (assetHeaders mimeType contentEncoding contentType, content),
        insert assetHashes path (sha256 content)))
    (assets, assetHashes)

/-! ## Every path serves its own asset -/

section Insertions

variable {β : Type*} {map : String → Option β} {key : String}

theorem foldl_insert_of_not_mem {entries : List (String × β)}
    (absent : key ∉ entries.map (·.1)) :
    entries.foldl (fun map entry => insert map entry.1 entry.2) map key = map key := by
  induction entries generalizing map with
  | nil => rfl
  | cons entry entries induction =>
      simp only [List.map_cons, List.mem_cons, not_or] at absent
      rw [List.foldl_cons, induction absent.2]
      simp [insert, absent.1]

theorem foldl_insert_of_mem {entries : List (String × β)} (nodup : (entries.map (·.1)).Nodup)
    {value : β} (member : (key, value) ∈ entries) :
    entries.foldl (fun map entry => insert map entry.1 entry.2) map key = some value := by
  induction entries generalizing map with
  | nil => cases member
  | cons entry entries induction =>
      simp only [List.map_cons, List.nodup_cons] at nodup
      rw [List.foldl_cons]
      rcases List.mem_cons.mp member with rfl | member
      · rw [foldl_insert_of_not_mem nodup.1]
        simp [insert]
      · exact induction nodup.2 member

end Insertions

def servedEntry (mimeType : ContentType → String) : Asset → String × (List HeaderField × List UInt8)
  | (path, content, contentEncoding, contentType) =>
      (path, (assetHeaders mimeType contentEncoding contentType, content))

def hashEntry (sha256 : List UInt8 → Hash) : Asset → String × Hash
  | (path, content, _) => (path, sha256 content)

theorem initAssets_eq (sha256 : List UInt8 → Hash) (mimeType : ContentType → String)
    (dist : Dist) (assets : String → Option (List HeaderField × List UInt8))
    (assetHashes : String → Option Hash) :
    initAssets sha256 mimeType dist assets assetHashes =
      (((getAssets dist).map (servedEntry mimeType)).foldl
          (fun map entry => insert map entry.1 entry.2) assets,
        ((getAssets dist).map (hashEntry sha256)).foldl
          (fun map entry => insert map entry.1 entry.2) assetHashes) := by
  unfold initAssets
  generalize getAssets dist = list
  induction list generalizing assets assetHashes with
  | nil => rfl
  | cons asset list induction =>
      obtain ⟨path, content, contentEncoding, contentType⟩ := asset
      exact induction _ _

theorem getAssets_paths_nodup (dist : Dist) : ((getAssets dist).map (·.1)).Nodup := by
  simp only [getAssets, List.map_cons, List.map_nil]
  decide

theorem getAssets_gzip_iff {dist : Dist} {path : String} {content : List UInt8}
    {contentEncoding : ContentEncoding} {contentType : ContentType}
    (member : (path, content, contentEncoding, contentType) ∈ getAssets dist) :
    contentEncoding = .gzip ↔ path = "/index.js" := by
  simp only [getAssets, List.mem_cons, Prod.mk.injEq, List.mem_nil_iff, or_false] at member
  rcases member with ⟨rfl, -, rfl, -⟩ | ⟨rfl, -, rfl, -⟩ | ⟨rfl, -, rfl, -⟩ | ⟨rfl, -, rfl, -⟩ |
      ⟨rfl, -, rfl, -⟩ | ⟨rfl, -, rfl, -⟩ | ⟨rfl, -, rfl, -⟩ | ⟨rfl, -, rfl, -⟩ <;>
    decide

section Served

variable (sha256 : List UInt8 → Hash) (mimeType : ContentType → String) (dist : Dist)
  (assets : String → Option (List HeaderField × List UInt8)) (assetHashes : String → Option Hash)

theorem servedEntry_paths :
    ((getAssets dist).map (servedEntry mimeType)).map (·.1) = (getAssets dist).map (·.1) := by
  rw [List.map_map]
  rfl

theorem hashEntry_paths :
    ((getAssets dist).map (hashEntry sha256)).map (·.1) = (getAssets dist).map (·.1) := by
  rw [List.map_map]
  rfl

variable {sha256 mimeType dist assets assetHashes}

theorem initAssets_fst_of_mem {path : String} {content : List UInt8}
    {contentEncoding : ContentEncoding} {contentType : ContentType}
    (member : (path, content, contentEncoding, contentType) ∈ getAssets dist) :
    (initAssets sha256 mimeType dist assets assetHashes).1 path =
      some (assetHeaders mimeType contentEncoding contentType, content) := by
  rw [initAssets_eq]
  exact foldl_insert_of_mem ((servedEntry_paths mimeType dist).symm ▸ getAssets_paths_nodup dist)
    (List.mem_map_of_mem (servedEntry mimeType) member)

theorem initAssets_snd_of_mem {path : String} {content : List UInt8}
    {contentEncoding : ContentEncoding} {contentType : ContentType}
    (member : (path, content, contentEncoding, contentType) ∈ getAssets dist) :
    (initAssets sha256 mimeType dist assets assetHashes).2 path = some (sha256 content) := by
  rw [initAssets_eq]
  exact foldl_insert_of_mem ((hashEntry_paths sha256 dist).symm ▸ getAssets_paths_nodup dist)
    (List.mem_map_of_mem (hashEntry sha256) member)

theorem initAssets_of_not_mem {path : String} (absent : path ∉ (getAssets dist).map (·.1)) :
    (initAssets sha256 mimeType dist assets assetHashes).1 path = assets path ∧
      (initAssets sha256 mimeType dist assets assetHashes).2 path = assetHashes path := by
  rw [initAssets_eq]
  exact ⟨foldl_insert_of_not_mem (by rwa [servedEntry_paths]),
    foldl_insert_of_not_mem (by rwa [hashEntry_paths])⟩

end Served

/-- After `init_assets`, each path of `get_assets` serves its own content with
the headers of its encoding and type, and holds the hash of that content;
every other path keeps what it had. -/
theorem initAssets_serves (sha256 : List UInt8 → Hash) (mimeType : ContentType → String)
    (dist : Dist) (assets : String → Option (List HeaderField × List UInt8))
    (assetHashes : String → Option Hash) :
    (∀ path content contentEncoding contentType,
        (path, content, contentEncoding, contentType) ∈ getAssets dist →
          (initAssets sha256 mimeType dist assets assetHashes).1 path =
              some (assetHeaders mimeType contentEncoding contentType, content) ∧
            (initAssets sha256 mimeType dist assets assetHashes).2 path = some (sha256 content)) ∧
      ∀ path, path ∉ (getAssets dist).map (·.1) →
        (initAssets sha256 mimeType dist assets assetHashes).1 path = assets path ∧
          (initAssets sha256 mimeType dist assets assetHashes).2 path = assetHashes path :=
  ⟨fun _ _ _ _ member => ⟨initAssets_fst_of_mem member, initAssets_snd_of_mem member⟩,
    fun _ absent => initAssets_of_not_mem absent⟩

/-- After `init_assets`, every asset is served with one `Content-Type`
header, naming the MIME type of its content type, and with a
`Content-Encoding: gzip` header exactly when its path is `/index.js`, the
one asset stored gzipped. -/
theorem initAssets_headers (sha256 : List UInt8 → Hash) (mimeType : ContentType → String)
    (dist : Dist) (assets : String → Option (List HeaderField × List UInt8))
    (assetHashes : String → Option Hash) :
    ∀ path content contentEncoding contentType,
      (path, content, contentEncoding, contentType) ∈ getAssets dist →
        ∃ headers, (initAssets sha256 mimeType dist assets assetHashes).1 path =
            some (headers, content) ∧
          headers.filter (·.1 == "Content-Type") = [("Content-Type", mimeType contentType)] ∧
          (("Content-Encoding", "gzip") ∈ headers ↔ path = "/index.js") := by
  intro path content contentEncoding contentType member
  obtain ⟨contentTypes, gzipped⟩ := assetHeaders_spec mimeType contentEncoding contentType
  exact ⟨_, initAssets_fst_of_mem member, contentTypes,
    gzipped.trans (getAssets_gzip_iff member)⟩

example :
    ∃ headers, (initAssets (fun _ => ()) (fun _ => "") ⟨[], [], [], [], [], []⟩ (fun _ => none)
        (fun _ => none)).1 "/index.js" = some (headers, []) ∧
      ("Content-Encoding", "gzip") ∈ headers := by
  obtain ⟨headers, served, -, gzipped⟩ :=
    initAssets_headers (fun _ => ()) (fun _ => "") ⟨[], [], [], [], [], []⟩ (fun _ => none)
      (fun _ => none) "/index.js" [] .gzip .js (by simp [getAssets])
  exact ⟨headers, served, gzipped.mpr rfl⟩

end InternetIdentity.Assets
