import LayeredSettings.Setting.Typed

/-
  This file lists the settings that the library knows.

  Key definitions include:
    * `Catalog.all`
    * `Catalog.contains`

  Credentials, and what says where profile files are, have
  no profile key: they never come from a profile.
-/

namespace LayeredSettings

namespace Catalog

------------------------------------------------------------
-- Credentials
------------------------------------------------------------

/- The access key. -/
def accessKeyId : Setting String where
  keys :=
    { name := "access key id"
      systemProperty := "aws.accessKeyId"
      environmentVariable := "AWS_ACCESS_KEY_ID" }
  coerce := Coercion.text

/- The secret of the access key. -/
def secretAccessKey : Setting String where
  keys :=
    { name := "secret access key"
      systemProperty := "aws.secretAccessKey"
      environmentVariable := "AWS_SECRET_ACCESS_KEY" }
  coerce := Coercion.text

/- The token of a temporary session. -/
def sessionToken : Setting String where
  keys :=
    { name := "session token"
      systemProperty := "aws.sessionToken"
      environmentVariable := "AWS_SESSION_TOKEN" }
  coerce := Coercion.text

------------------------------------------------------------
-- Region and Profile Files
------------------------------------------------------------

/- The region. -/
def region : Setting Region where
  keys :=
    { name := "region"
      systemProperty := "aws.region"
      environmentVariable := "AWS_REGION"
      profileKey := "region" }
  coerce := Coercion.region

/- The profile that is selected. -/
def profile : Setting String where
  keys :=
    { name := "profile"
      systemProperty := "aws.profile"
      environmentVariable := "AWS_PROFILE" }
  fallback := "default"
  coerce := Coercion.text

/- The path of the config file. -/
def configFile : Setting String where
  keys :=
    { name := "config file"
      systemProperty := "aws.configFile"
      environmentVariable := "AWS_CONFIG_FILE" }
  fallback := "~/.aws/config"
  coerce := Coercion.text

/- The path of the credentials file. -/
def sharedCredentialsFile : Setting String where
  keys :=
    { name := "shared credentials file"
      systemProperty := "aws.sharedCredentialsFile"
      environmentVariable := "AWS_SHARED_CREDENTIALS_FILE" }
  fallback := "~/.aws/credentials"
  coerce := Coercion.text

------------------------------------------------------------
-- Metadata Service
------------------------------------------------------------

/- Whether the metadata service must not be contacted. -/
def metadataDisabled : Setting Bool where
  keys :=
    { name := "ec2 metadata disabled"
      systemProperty := "aws.disableEc2Metadata"
      environmentVariable := "AWS_EC2_METADATA_DISABLED" }
  fallback := false
  coerce := Coercion.boolean

/- The endpoint of the metadata service. -/
def metadataEndpoint : Setting String where
  keys :=
    { name := "ec2 metadata service endpoint"
      systemProperty := "aws.ec2MetadataServiceEndpoint"
      environmentVariable :=
        "AWS_EC2_METADATA_SERVICE_ENDPOINT"
      profileKey := "ec2_metadata_service_endpoint" }
  coerce := Coercion.text

/- The endpoint mode of the metadata service. -/
def metadataEndpointMode : Setting EndpointMode where
  keys :=
    { name := "ec2 metadata service endpoint mode"
      systemProperty :=
        "aws.ec2MetadataServiceEndpointMode"
      environmentVariable :=
        "AWS_EC2_METADATA_SERVICE_ENDPOINT_MODE"
      profileKey := "ec2_metadata_service_endpoint_mode" }
  fallback := EndpointMode.ipv4
  coerce := Coercion.endpointMode

------------------------------------------------------------
-- Roles
------------------------------------------------------------

/- The role to assume. -/
def roleArn : Setting String where
  keys :=
    { name := "role arn"
      systemProperty := "aws.roleArn"
      environmentVariable := "AWS_ROLE_ARN"
      profileKey := "role_arn" }
  coerce := Coercion.text

/- The name of the session in an assumed role. -/
def roleSessionName : Setting String where
  keys :=
    { name := "role session name"
      systemProperty := "aws.roleSessionName"
      environmentVariable := "AWS_ROLE_SESSION_NAME"
      profileKey := "role_session_name" }
  coerce := Coercion.text

/- The file that holds a web identity token. -/
def webIdentityTokenFile : Setting String where
  keys :=
    { name := "web identity token file"
      systemProperty := "aws.webIdentityTokenFile"
      environmentVariable := "AWS_WEB_IDENTITY_TOKEN_FILE"
      profileKey := "web_identity_token_file" }
  coerce := Coercion.text

------------------------------------------------------------
-- Execution and Retries
------------------------------------------------------------

/- The environment in which the program is executed. -/
def executionEnv : Setting String where
  keys :=
    { name := "execution environment"
      environmentVariable := "AWS_EXECUTION_ENV" }
  coerce := Coercion.text

/- The most attempts of a request. -/
def maxAttempts : Setting Int where
  keys :=
    { name := "max attempts"
      systemProperty := "aws.maxAttempts"
      environmentVariable := "AWS_MAX_ATTEMPTS"
      profileKey := "max_attempts" }
  coerce := Coercion.integer

/- The retry mode. -/
def retryMode : Setting RetryMode where
  keys :=
    { name := "retry mode"
      systemProperty := "aws.retryMode"
      environmentVariable := "AWS_RETRY_MODE"
      profileKey := "retry_mode" }
  coerce := Coercion.retryMode

------------------------------------------------------------
-- The List
------------------------------------------------------------

/- Every setting of the catalog. -/
def all : List TypedSetting :=
  [ ⟨.text, accessKeyId⟩,
    ⟨.text, secretAccessKey⟩,
    ⟨.text, sessionToken⟩,
    ⟨.region, region⟩,
    ⟨.text, profile⟩,
    ⟨.text, configFile⟩,
    ⟨.text, sharedCredentialsFile⟩,
    ⟨.boolean, metadataDisabled⟩,
    ⟨.text, metadataEndpoint⟩,
    ⟨.endpointMode, metadataEndpointMode⟩,
    ⟨.text, roleArn⟩,
    ⟨.text, roleSessionName⟩,
    ⟨.text, webIdentityTokenFile⟩,
    ⟨.text, executionEnv⟩,
    ⟨.integer, maxAttempts⟩,
    ⟨.retryMode, retryMode⟩ ]

/- Whether a setting of the catalog has the keys. -/
def contains
    (keys : SettingKeys) : Bool :=
  all.any fun s => s.keys = keys

end Catalog

end LayeredSettings
