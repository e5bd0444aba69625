/-!
# A settings file to start from

The file that the program writes for a user to edit.
-/

namespace Changefeed.CommandLine

/-- The lines of the file. -/
def starterLines : List String := [
  "# Cartridge-Sink Configuration",
  "",
  "# Target database configuration",
  "destination:",
  "  type: postgresql  # postgresql or dry_run",
  "  connection_string: \"postgresql://localhost:5432/warehouse\"",
  "  target_schema: \"public\"",
  "  min_connections: 1",
  "  max_connections: 5",
  "  command_timeout: 60",
  "",
  "# Routing of topics or source tables to target tables (optional).",
  "# Unmapped events go to the table named in their source block.",
  "tables:",
  "  - topic: \"oracle.INVENTORY.ORDERS\"",
  "    target_table: \"orders\"",
  "  - source_table: \"CUSTOMERS\"",
  "    target_table: \"customers\"",
  "",
  "# Statement translation",
  "translation:",
  "  identifier_policy: strict  # strict or trust",
  "",
  "# Monitoring configuration",
  "monitoring:",
  "  prometheus:",
  "    enabled: false",
  "    port: 8080",
  "  log_level: \"INFO\"",
  "  structured_logging: true",
  "",
  "# Error handling configuration",
  "error_handling:",
  "  fail_fast: false",
  "  log_failed_payloads: false",
  "",
  "# Runtime settings",
  "dry_run: false"]

/-- The text of the file. -/
def starterText : String :=
  "\n".intercalate starterLines ++ "\n"

/-- The path of the file. -/
def starterPath : String := "cartridge-sink-config.yaml"

end Changefeed.CommandLine
