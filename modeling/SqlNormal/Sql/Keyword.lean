import SqlNormal.Sql.Token
import SqlNormal.Text.Ascii
import SqlNormal.Text.Blank

/-!
# Keywords

The words that the language knows. A word between marks is never one of them.

* `Token.keyword`, `isKeyword`: a word in upper case, and whether the language knows it;
* `reservedForColumnName`, `reservedForTableName`: the words that do not name a column or a table
  unless `AS` stands before them;
* `reservedForIdentifier`: the words that never are a column by themselves.
-/

namespace SqlNormal.Sql

/-- The words of the language in alphabetical order, a few in a row. -/
def keywordRows : List String :=
  ["ABORT ABS ABSENT ABSOLUTE ACCESS ACTION ADD ADMIN AFTER AGAINST AGGREGATION ALERT",
   "ALGORITHM ALIAS ALL ALLOCATE ALTER ALWAYS ANALYZE AND ANTI ANY APPLICATION APPLY ARCHIVE",
   "ARE ARRAY ARRAY_MAX_CARDINALITY AS ASC ASENSITIVE ASOF ASSERT ASYMMETRIC AT ATOMIC ATTACH",
   "AUDIT AUTHENTICATION AUTHORIZATION AUTO AUTOINCREMENT AUTO_INCREMENT AVG AVRO BACKWARD",
   "BASE64 BASE_LOCATION BEGIN BEGIN_FRAME BEGIN_PARTITION BERNOULLI BETWEEN BIGDECIMAL BIGINT",
   "BIGNUMERIC BINARY BINDING BIT BLOB BLOCK BLOOM BLOOMFILTER BOOL BOOLEAN BOTH BROWSE BTREE",
   "BUCKET BUCKETS BY BYPASSRLS BYTEA BYTES CACHE CALL CALLED CARDINALITY CASCADE CASCADED",
   "CASE CASES CAST CATALOG CATALOG_SYNC CEIL CEILING CENTURY CHAIN CHANGE CHANGE_TRACKING",
   "CHANNEL CHAR CHARACTER CHARACTERISTICS CHARACTERS CHARACTER_LENGTH CHARSET CHAR_LENGTH",
   "CHECK CLEAR CLOB CLONE CLOSE CLUSTER CLUSTERED CLUSTERING COALESCE COLLATE COLLATION",
   "COLLECT COLLECTION COLUMN COLUMNS COLUMNSTORE COMMENT COMMIT COMMITTED COMPATIBLE",
   "COMPRESSION COMPUTE CONCURRENTLY CONDITION CONFLICT CONNECT CONNECTION CONNECTOR",
   "CONSTRAINT CONTAINS CONTINUE CONVERT COPY COPY_OPTIONS CORR CORRESPONDING COUNT COVAR_POP",
   "COVAR_SAMP CREATE CREATEDB CREATEROLE CREDENTIALS CROSS CSV CUBE CUME_DIST CURRENT",
   "CURRENT_CATALOG CURRENT_DATE CURRENT_DEFAULT_TRANSFORM_GROUP CURRENT_PATH CURRENT_ROLE",
   "CURRENT_ROW CURRENT_SCHEMA CURRENT_TIME CURRENT_TIMESTAMP CURRENT_TRANSFORM_GROUP_FOR_TYPE",
   "CURRENT_USER CURSOR CYCLE DATA DATABASE DATABASES DATA_RETENTION_TIME_IN_DAYS DATE DATE32",
   "DATETIME DATETIME64 DAY DAYOFWEEK DAYOFYEAR DAYS DCPROPERTIES DEALLOCATE DEC DECADE",
   "DECIMAL DECLARE DEDUPLICATE DEFAULT DEFAULT_DDL_COLLATION DEFERRABLE DEFERRED DEFINE",
   "DEFINED DEFINER DELAYED DELAY_KEY_WRITE DELETE DELIMITED DELIMITER DELTA DENSE_RANK DEREF",
   "DESC DESCRIBE DETACH DETAIL DETERMINISTIC DIRECTORY DISABLE DISCARD DISCONNECT DISTINCT",
   "DISTRIBUTE DIV DO DOUBLE DOW DOY DROP DRY DUPLICATE DYNAMIC EACH ELEMENT ELEMENTS ELSE",
   "EMPTY ENABLE ENABLE_SCHEMA_EVOLUTION ENCODING ENCRYPTION END ENDPOINT END_EXEC END_FRAME",
   "END_PARTITION ENFORCED ENGINE ENUM ENUM16 ENUM8 EPHEMERAL EPOCH EQUALS ERROR ESCAPE",
   "ESCAPED EVENT EVERY EVOLVE EXCEPT EXCEPTION EXCHANGE EXCLUDE EXCLUSIVE EXEC EXECUTE",
   "EXECUTION EXISTS EXP EXPANSION EXPLAIN EXPLICIT EXPORT EXTENDED EXTENSION EXTERNAL",
   "EXTERNAL_VOLUME EXTRACT FAIL FAILOVER FALSE FETCH FIELDS FILE FILES FILE_FORMAT FILL",
   "FILTER FINAL FIRST FIRST_VALUE FIXEDSTRING FLOAT FLOAT32 FLOAT4 FLOAT64 FLOAT8 FLOOR FLUSH",
   "FN FOLLOWING FOR FORCE FORCE_NOT_NULL FORCE_NULL FORCE_QUOTE FOREIGN FORMAT FORMATTED",
   "FORWARD FRAME_ROW FREE FREEZE FROM FSCK FULFILLMENT FULL FULLTEXT FUNCTION FUNCTIONS",
   "FUSION GENERAL GENERATE GENERATED GEOGRAPHY GET GLOBAL GRANT GRANTED GRANTS GRAPHVIZ GROUP",
   "GROUPING GROUPS GZIP HASH HAVING HEADER HEAP HIGH_PRIORITY HISTORY HIVEVAR HOLD HOSTS HOUR",
   "HOURS ICEBERG ID IDENTITY IDENTITY_INSERT IF IGNORE ILIKE IMMEDIATE IMMUTABLE IMPORT",
   "IMPORTED IN INCLUDE INCLUDE_NULL_VALUES INCREMENT INDEX INDICATOR INHERIT INITIALLY INNER",
   "INOUT INPATH INPUT INPUTFORMAT INSENSITIVE INSERT INSTALL INSTEAD INT INT128 INT16 INT2",
   "INT256 INT32 INT4 INT64 INT8 INTEGER INTEGRATION INTERPOLATE INTERSECT INTERSECTION",
   "INTERVAL INTO INVOKER IO IS ISODOW ISOLATION ISOWEEK ISOYEAR ITEMS JAR JOIN JSON JSONB",
   "JSONFILE JSON_TABLE JULIAN KEY KEYS KILL LAG LANGUAGE LARGE LAST LAST_VALUE LATERAL LEAD",
   "LEADING LEFT LEVEL LIKE LIKE_REGEX LIMIT LINES LIST LISTEN LN LOAD LOCAL LOCALTIME",
   "LOCALTIMESTAMP LOCATION LOCK LOCKED LOGIN LOGS LONGBLOB LONGTEXT LOWCARDINALITY LOWER",
   "LOW_PRIORITY MACRO MANAGE MANAGEDLOCATION MAP MASKING MATCH MATCHED MATCHES",
   "MATCH_CONDITION MATCH_RECOGNIZE MATERIALIZE MATERIALIZED MAX MAXVALUE",
   "MAX_DATA_EXTENSION_TIME_IN_DAYS MEASURES MEDIUMBLOB MEDIUMINT MEDIUMTEXT MEMBER MERGE",
   "METADATA METHOD METRIC MICROSECOND MICROSECONDS MILLENIUM MILLENNIUM MILLISECOND",
   "MILLISECONDS MIN MINUTE MINVALUE MOD MODE MODIFIES MODIFY MODULE MONITOR MONTH MSCK",
   "MULTISET MUTATION NAME NANOSECOND NANOSECONDS NATIONAL NATURAL NCHAR NCLOB NESTED NETWORK",
   "NEW NEXT NO NOBYPASSRLS NOCREATEDB NOCREATEROLE NOINHERIT NOLOGIN NONE NOORDER",
   "NOREPLICATION NORMALIZE NOSCAN NOSUPERUSER NOT NOTHING NOTIFY NOWAIT NO_WRITE_TO_BINLOG",
   "NTH_VALUE NTILE NULL NULLABLE NULLIF NULLS NUMERIC NVARCHAR OBJECT OCCURRENCES_REGEX",
   "OCTETS OCTET_LENGTH OF OFF OFFSET OFFSETS OLD OMIT ON ONE ONLY OPEN OPENJSON OPERATE",
   "OPERATOR OPTIMIZATION OPTIMIZE OPTIMIZED OPTIMIZER_COSTS OPTION OPTIONS OR ORC ORDER",
   "ORDINALITY ORGANIZATION OUT OUTER OUTPUTFORMAT OVER OVERFLOW OVERLAPS OVERLAY OVERRIDE",
   "OVERWRITE OWNED OWNER OWNERSHIP PACKAGE PACKAGES PARALLEL PARAMETER PARQUET PART PARTITION",
   "PARTITIONED PARTITIONS PASSING PASSWORD PAST PATH PATTERN PER PERCENT PERCENTILE_CONT",
   "PERCENTILE_DISC PERCENT_RANK PERIOD PERMISSIVE PERSISTENT PIVOT PLACING PLAN PLANS POLICY",
   "PORTION POSITION POSITION_REGEX POWER PRAGMA PRECEDES PRECEDING PRECISION PREPARE PRESERVE",
   "PREWHERE PRIMARY PRIOR PRIVILEGES PROCEDURE PROFILE PROGRAM PROJECTION PUBLIC PURCHASE",
   "PURGE QUALIFY QUARTER QUERY QUOTE RANGE RANK RAW RCFILE READ READS READ_ONLY REAL",
   "RECLUSTER RECURSIVE REF REFERENCES REFERENCING REGCLASS REGEXP REGR_AVGX REGR_AVGY",
   "REGR_COUNT REGR_INTERCEPT REGR_R2 REGR_SLOPE REGR_SXX REGR_SXY REGR_SYY RELATIVE RELAY",
   "RELEASE REMOTE RENAME REORG REPAIR REPEATABLE REPLACE REPLICA REPLICATE REPLICATION RESET",
   "RESOLVE RESOURCE RESPECT RESTART RESTRICT RESTRICTED RESTRICTIVE RESULT RESULTSET RETAIN",
   "RETURN RETURNING RETURNS REVOKE RIGHT RLIKE ROLE ROLES ROLLBACK ROLLUP ROOT ROW ROWID ROWS",
   "ROW_FORMAT ROW_NUMBER RULE RUN SAFE SAFE_CAST SAMPLE SAVEPOINT SCHEMA SCHEMAS SCOPE SCROLL",
   "SEARCH SECOND SECONDARY SECRET SECURITY SEED SELECT SEMI SENSITIVE SEPARATOR SEQUENCE",
   "SEQUENCEFILE SEQUENCES SERDE SERDEPROPERTIES SERIALIZABLE SERVICE SESSION SESSION_USER SET",
   "SETERROR SETS SETTINGS SHARE SHOW SIMILAR SKIP SLOW SMALLINT SNAPSHOT SOME SORT SORTED",
   "SOURCE SPATIAL SPECIFIC SPECIFICTYPE SQL SQLEXCEPTION SQLSTATE SQLWARNING SQRT STABLE",
   "STAGE START STARTS STATEMENT STATIC STATISTICS STATUS STDDEV_POP STDDEV_SAMP STDIN STDOUT",
   "STEP STORAGE_INTEGRATION STORAGE_SERIALIZATION_POLICY STORED STRICT STRING STRUCT",
   "SUBMULTISET SUBSTRING SUBSTRING_REGEX SUCCEEDS SUM SUPER SUPERUSER SUPPORT SUSPEND SWAP",
   "SYMMETRIC SYNC SYSTEM SYSTEM_TIME SYSTEM_USER TABLE TABLES TABLESAMPLE TAG TARGET",
   "TBLPROPERTIES TEMP TEMPORARY TEMPTABLE TERMINATED TERSE TEXT TEXTFILE THEN TIES TIME",
   "TIMESTAMP TIMESTAMPTZ TIMETZ TIMEZONE TIMEZONE_ABBR TIMEZONE_HOUR TIMEZONE_MINUTE",
   "TIMEZONE_REGION TINYBLOB TINYINT TINYTEXT TO TOP TOTALS TRACE TRAILING TRANSACTION",
   "TRANSIENT TRANSLATE TRANSLATE_REGEX TRANSLATION TREAT TRIGGER TRIM TRIM_ARRAY TRUE",
   "TRUNCATE TRY TRY_CAST TRY_CONVERT TUPLE TYPE UESCAPE UINT128 UINT16 UINT256 UINT32 UINT64",
   "UINT8 UNBOUNDED UNCACHE UNCOMMITTED UNDEFINED UNFREEZE UNION UNIQUE UNKNOWN UNLISTEN",
   "UNLOAD UNLOCK UNLOGGED UNMATCHED UNNEST UNPIVOT UNSAFE UNSET UNSIGNED UNTIL UPDATE UPPER",
   "URL USAGE USE USER USER_RESOURCES USING UUID VACUUM VALID VALIDATION_MODE VALUE VALUES",
   "VALUE_OF VARBINARY VARCHAR VARIABLES VARYING VAR_POP VAR_SAMP VERBOSE VERSION VERSIONING",
   "VERSIONS VIEW VIEWS VIRTUAL VOLATILE WAREHOUSE WAREHOUSES WEEK WEEKS WHEN WHENEVER WHERE",
   "WIDTH_BUCKET WINDOW WITH WITHIN WITHOUT WITHOUT_ARRAY_WRAPPER WORK WRITE XML XOR YEAR",
   "YEARS ZONE ZORDER"]

/-- The words of the language. -/
def keywords : List String :=
  keywordRows.flatMap Text.words

/-- The keyword of a token: a word without marks, in upper case; of other tokens, nothing. -/
def Token.keyword : Token → String
  | .word ⟨value, none⟩ => Text.upper value
  | _ => ""

/-- A word in upper case that the language knows. -/
def isKeyword (word : String) : Bool :=
  keywords.contains word

/-- The words that do not name anything without `AS`. -/
def reservedForName : List String :=
  ["WITH", "EXPLAIN", "ANALYZE", "SELECT", "WHERE", "GROUP", "SORT", "HAVING", "ORDER", "TOP",
   "LATERAL", "VIEW", "LIMIT", "OFFSET", "FETCH", "UNION", "EXCEPT", "INTERSECT", "CLUSTER",
   "DISTRIBUTE", "RETURNING"]

/-- The words that do not name a column without `AS`. -/
def reservedForColumnName : List String :=
  reservedForName ++ ["FROM", "INTO", "END"]

/-- The words that go on behind a table. -/
def reservedForJoin : List String :=
  ["PIVOT", "UNPIVOT", "ON", "JOIN", "INNER", "CROSS", "FULL", "LEFT", "RIGHT", "NATURAL",
   "USING", "GLOBAL", "ANTI", "SEMI", "ASOF", "MATCH_CONDITION", "OUTER", "SET", "QUALIFY",
   "WINDOW", "END", "FOR", "PARTITION", "PREWHERE", "SETTINGS", "FORMAT", "START", "CONNECT",
   "MATCH_RECOGNIZE"]

/-- The words that do not name a table without `AS`. -/
def reservedForTableName : List String :=
  reservedForName ++ reservedForJoin

/-- The words that never are a column by themselves. -/
def reservedForIdentifier : List String :=
  ["EXISTS", "INTERVAL", "STRUCT", "TRIM"]

end SqlNormal.Sql
