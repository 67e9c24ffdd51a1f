import PgAnalytics.ObjectStores
import PgAnalytics.OptionValidators

/-! The options of the DataFusion wrappers: the validators that run when they are set, and the
builders of the stores that are made of them. -/

namespace PgAnalytics.WrapperOptions
open Basics (Fault Options)
open ObjectStores
open OptionValidators (Catalog OptionValidator asMap optionName forM_eq_ok_iff mem_asMap)
open OptionValidators.OptionValidator

inductive TableOption where
  | path
  | extension
  | format
  deriving DecidableEq, Repr

instance : OptionValidator TableOption where
  iter := [.path, .extension, .format]
  asRef
    | .path => "path"
    | .extension => "extension"
    | .format => "format"
  isRequired
    | .path => true
    | .extension => true
    | .format => false

inductive AmazonServerOption where
  | endpoint
  | region
  | allowAnonymous
  deriving DecidableEq, Repr

instance : OptionValidator AmazonServerOption where
  iter := [.endpoint, .region, .allowAnonymous]
  asRef
    | .endpoint => "endpoint"
    | .region => "region"
    | .allowAnonymous => "allow_anonymous"
  isRequired _ := false

inductive GcsServerOption where
  | defaultStorageClass
  | endpoint
  | predefinedAcl
  deriving DecidableEq, Repr

instance : OptionValidator GcsServerOption where
  iter := [.defaultStorageClass, .endpoint, .predefinedAcl]
  asRef
    | .defaultStorageClass => "default_storage_class"
    | .endpoint => "endpoint"
    | .predefinedAcl => "predefined_acl"
  isRequired _ := false

inductive AzblobServerOption where
  | encryptionAlgorithm
  | endpoint
  deriving DecidableEq, Repr

instance : OptionValidator AzblobServerOption where
  iter := [.encryptionAlgorithm, .endpoint]
  asRef
    | .encryptionAlgorithm => "encryption_algorithm"
    | .endpoint => "endpoint"
  isRequired
    | .encryptionAlgorithm => false
    | .endpoint => true

inductive AzdlsServerOption where
  | endpoint
  deriving DecidableEq, Repr

instance : OptionValidator AzdlsServerOption where
  iter := [.endpoint]
  asRef _ := "endpoint"
  isRequired _ := true

structure S3 where
  disableConfigLoad : Bool
  disableEc2Metadata : Bool
  bucket : Option String
  region : Option String
  accessKeyId : Option String
  secretAccessKey : Option String
  securityToken : Option String
  endpoint : Option String
  allowAnonymous : Bool
  deriving DecidableEq, Repr

/-- `S3::try_from`. Anonymous access takes the word `true`. -/
def S3.tryFrom (options : ObjectStoreConfig) : S3 where
  disableConfigLoad := true
  disableEc2Metadata := true
  bucket := options.url.host
  region := options.serverOptions.lookup "region"
  accessKeyId := options.userMappingOptions.lookup "access_key_id"
  secretAccessKey := options.userMappingOptions.lookup "secret_access_key"
  securityToken := options.userMappingOptions.lookup "security_token"
  endpoint := options.serverOptions.lookup "endpoint"
  allowAnonymous := options.serverOptions.lookup "allow_anonymous" == some "true"

structure Gcs where
  bucket : Option String
  credential : Option String
  credentialPath : Option String
  defaultStorageClass : Option String
  endpoint : Option String
  predefinedAcl : Option String
  scope : Option String
  serviceAccount : Option String
  deriving DecidableEq, Repr

def Gcs.tryFrom (options : ObjectStoreConfig) : Gcs where
  bucket := options.url.host
  credential := options.userMappingOptions.lookup "credential"
  credentialPath := options.userMappingOptions.lookup "credential_path"
  defaultStorageClass := options.serverOptions.lookup "default_storage_class"
  endpoint := options.serverOptions.lookup "endpoint"
  predefinedAcl := options.serverOptions.lookup "predefined_acl"
  scope := options.userMappingOptions.lookup "scope"
  serviceAccount := options.userMappingOptions.lookup "service_account"

structure Azdls where
  root : Option String
  filesystem : Option String
  accountKey : Option String
  accountName : Option String
  endpoint : Option String
  deriving DecidableEq, Repr

/-- The root of an Azure container: the path of a Delta table. -/
def azureRoot (options : ObjectStoreConfig) : Option String :=
  if options.format = .delta then some options.url.path else none

def Azdls.tryFrom (options : ObjectStoreConfig) : Azdls where
  root := azureRoot options
  filesystem := options.url.host
  accountKey := options.userMappingOptions.lookup "account_key"
  accountName := options.userMappingOptions.lookup "account_name"
  endpoint := options.serverOptions.lookup "endpoint"

section Builders

variable (fromConnectionString : String → Except Fault Azblob)

end Builders

/-- The names that a wrapper's validator knows of its servers; those of local files are not
looked at. -/
def serverOptions : FdwHandler → List String
  | .s3 => (iter : List AmazonServerOption).map asRef
  | .gcs => (iter : List GcsServerOption).map asRef
  | .azblob => (iter : List AzblobServerOption).map asRef
  | .azdls => (iter : List AzdlsServerOption).map asRef
  | .localFile | .other => []

/-- The names of a user mapping, which no validator looks at. -/
def userMappingOptions : FdwHandler → List String
  | .s3 => ["access_key_id", "secret_access_key", "security_token"]
  | .gcs => ["credential", "credential_path", "scope", "service_account"]
  | .azblob => ["account_key", "account_name", "customer_provided_key", "encryption_key",
      "encryption_key_sha256", "sas_token"]
  | .azdls => ["account_key", "account_name"]
  | .localFile | .other => []

def validateOptions (optList : List (Option String)) (validOptions : List String) :
    Except Fault Unit :=
  forM (optList.filterMap id) fun entry =>
    let opt := optionName entry
    if opt ∈ validOptions then
      .ok ()
    else
      .error (.error ("Received unexpected option \"" ++ opt ++ "\". Valid options are: [\"" ++
        "\", \"".intercalate validOptions ++ "\"]"))

section Validators

-- `check_options_contain`, of the crate that the wrappers are built on.
variable (checkOptionsContain : List (Option String) → String → Except Fault Unit)

/-- `validate_options`, and the loop over the required options after it. -/
def validate (T : Type) [OptionValidator T] (optList : List (Option String)) :
    Except Fault Unit := do
  validateOptions optList ((iter : List T).map asRef)
  forM (iter : List T) fun opt =>
    if isRequired opt then checkOptionsContain optList (asRef opt) else .ok ()

/-- `validator` of the wrappers of remote stores, whose servers have the options `T`. -/
def remoteValidator (T : Type) [OptionValidator T] (optList : List (Option String)) :
    Option Catalog → Except Fault Unit
  | some .foreignServer => validate checkOptionsContain T optList
  | some .foreignTable => validate checkOptionsContain TableOption optList
  | _ => .ok ()

/-- `validator` of the wrapper of local files, which knows no user mappings. -/
def localValidator (optList : List (Option String)) : Option Catalog → Except Fault Unit
  | none | some .foreignDataWrapper | some .foreignServer => .ok ()
  | some .foreignTable => validate checkOptionsContain TableOption optList
  | some .userMapping | some .other => .error (.error "Received unsupported FDW oid")

def validatorOf (handler : FdwHandler) (optList : List (Option String))
    (catalog : Option Catalog) : Except Fault Unit :=
  match handler with
  | .s3 => remoteValidator checkOptionsContain AmazonServerOption optList catalog
  | .gcs => remoteValidator checkOptionsContain GcsServerOption optList catalog
  | .azblob => remoteValidator checkOptionsContain AzblobServerOption optList catalog
  | .azdls => remoteValidator checkOptionsContain AzdlsServerOption optList catalog
  | .localFile => localValidator checkOptionsContain optList catalog
  | .other => .ok ()

end Validators

def trips (optList : List (Option String)) : ObjectStoreConfig :=
  ⟨⟨"s3", some "trips", none, "/", ""⟩, .none, asMap optList, []⟩

end PgAnalytics.WrapperOptions
