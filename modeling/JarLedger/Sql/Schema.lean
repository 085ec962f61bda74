/-!
# The schema

The tables that a server keeps instances in, as the script that creates them.
-/

namespace JarLedger
namespace Schema

/-- What the script is about. -/
def opening : String :=
  "-- Instance graph for JVM and application-server runtimes.

"

/-- Table of instances. -/
def runtimeInstance : String :=
  "CREATE TABLE IF NOT EXISTS runtime_instance (
    id                BIGSERIAL PRIMARY KEY,
    linking_hash      TEXT        NOT NULL UNIQUE,
    kind              TEXT        NOT NULL,

    account_id        TEXT,
    org_id            TEXT        NOT NULL,
    created           TIMESTAMPTZ NOT NULL,

    hostname          TEXT        NOT NULL,
    launch_time       BIGINT      NOT NULL,
    vendor            TEXT,
    version_string    TEXT,
    version           TEXT,
    heap_min          BIGINT,
    heap_max          BIGINT,
    processors        INTEGER,
    java_home         TEXT,
    java_class_path   TEXT,
    pid               BIGINT,

    details           JSONB       NOT NULL DEFAULT '\x7b\x7d'::jsonb
);

"

/-- Index of instances by organization. -/
def organizationIndex : String :=
  "CREATE INDEX IF NOT EXISTS idx_runtime_instance_org_id ON runtime_instance (org_id);

"

/-- Table of the servers of instances. -/
def appServerInstance : String :=
  "CREATE TABLE IF NOT EXISTS app_server_instance (
    instance_id       BIGINT PRIMARY KEY REFERENCES runtime_instance (id) ON DELETE CASCADE,
    server_version    TEXT,
    xp                BOOLEAN NOT NULL DEFAULT FALSE,
    yaml_extension    BOOLEAN,
    bootable_jar      BOOLEAN,
    use_git           BOOLEAN,
    raw               TEXT    NOT NULL
);

"

/-- Table of the configurations of servers. -/
def appServerConfiguration : String :=
  "CREATE TABLE IF NOT EXISTS app_server_configuration (
    id                            BIGSERIAL PRIMARY KEY,
    instance_id                   BIGINT NOT NULL UNIQUE
                                      REFERENCES app_server_instance (instance_id) ON DELETE CASCADE,
    version                       TEXT,
    launch_type                   TEXT,
    name                          TEXT,
    organization                  TEXT,
    process_type                  TEXT,
    product_name                  TEXT,
    product_version               TEXT,
    profile_name                  TEXT,
    release_codename              TEXT,
    release_version               TEXT,
    running_mode                  TEXT,
    runtime_configuration_state   TEXT,
    server_state                  TEXT,
    suspend_state                 TEXT,
    socket_binding_groups         JSONB,
    paths                         JSONB,
    interfaces                    JSONB
);

"

/-- Table of the deployments of configurations. -/
def appServerDeployment : String :=
  "CREATE TABLE IF NOT EXISTS app_server_deployment (
    id                BIGSERIAL PRIMARY KEY,
    configuration_id  BIGINT NOT NULL REFERENCES app_server_configuration (id) ON DELETE CASCADE,
    name              TEXT   NOT NULL,
    runtime_name      TEXT,
    enabled           BOOLEAN,
    persistent        BOOLEAN,
    content           JSONB
);

"

/-- Table of the extensions of configurations. -/
def appServerExtension : String :=
  "CREATE TABLE IF NOT EXISTS app_server_extension (
    id                BIGSERIAL PRIMARY KEY,
    configuration_id  BIGINT NOT NULL REFERENCES app_server_configuration (id) ON DELETE CASCADE,
    module            TEXT   NOT NULL
);

"

/-- Table of the subsystems of extensions. -/
def appServerExtensionSubsystem : String :=
  "CREATE TABLE IF NOT EXISTS app_server_extension_subsystem (
    id                          BIGSERIAL PRIMARY KEY,
    extension_id                BIGINT NOT NULL REFERENCES app_server_extension (id) ON DELETE CASCADE,
    name                        TEXT   NOT NULL,
    management_major_version    INTEGER,
    management_minor_version    INTEGER,
    management_micro_version    INTEGER
);

"

/-- Table of the subsystems of configurations. -/
def appServerConfigurationSubsystem : String :=
  "CREATE TABLE IF NOT EXISTS app_server_configuration_subsystem (
    id                BIGSERIAL PRIMARY KEY,
    configuration_id  BIGINT NOT NULL REFERENCES app_server_configuration (id) ON DELETE CASCADE,
    name              TEXT   NOT NULL,
    settings          JSONB
);

"

/-- Table of jars, which outlive their owners. -/
def jarHash : String :=
  "-- Shared jar hash values. Owners are linked through the association tables below, and
-- deleting an owner never removes a value.
CREATE TABLE IF NOT EXISTS jar_hash (
    id                BIGSERIAL PRIMARY KEY,
    hash              TEXT NOT NULL UNIQUE,
    name              TEXT,
    version           TEXT
);

"

/-- Links from instances to their jars. -/
def instanceJarHash : String :=
  "CREATE TABLE IF NOT EXISTS instance_jar_hash (
    instance_id       BIGINT NOT NULL REFERENCES runtime_instance (id) ON DELETE CASCADE,
    jar_hash_id       BIGINT NOT NULL REFERENCES jar_hash (id),
    PRIMARY KEY (instance_id, jar_hash_id)
);

"

/-- Links from servers to the jars of their modules. -/
def appServerModuleJarHash : String :=
  "CREATE TABLE IF NOT EXISTS app_server_module_jar_hash (
    instance_id       BIGINT NOT NULL REFERENCES app_server_instance (instance_id) ON DELETE CASCADE,
    jar_hash_id       BIGINT NOT NULL REFERENCES jar_hash (id),
    PRIMARY KEY (instance_id, jar_hash_id)
);

"

/-- Links from deployments to the jars in them. -/
def appServerDeploymentJarHash : String :=
  "CREATE TABLE IF NOT EXISTS app_server_deployment_jar_hash (
    deployment_id     BIGINT NOT NULL REFERENCES app_server_deployment (id) ON DELETE CASCADE,
    jar_hash_id       BIGINT NOT NULL REFERENCES jar_hash (id),
    PRIMARY KEY (deployment_id, jar_hash_id)
);
"

/-- The script that creates all tables. -/
def script : String :=
  String.join [
    opening, runtimeInstance, organizationIndex, appServerInstance, appServerConfiguration,
    appServerDeployment, appServerExtension, appServerExtensionSubsystem,
    appServerConfigurationSubsystem, jarHash, instanceJarHash, appServerModuleJarHash,
    appServerDeploymentJarHash]

end Schema
end JarLedger
